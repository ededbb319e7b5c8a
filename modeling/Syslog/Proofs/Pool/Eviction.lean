import Syslog.Proofs.Pool.Operations

/-!
# Idle connections over time

A sweep looks at one idle connection after the other. It closes those that have been idle for too
long, and those that have been idle for a while if enough others are left at that moment. More of
these may then be closed for their age, were they not behind: enough stay idle because the oldest
stand in front.

* `Change`, `changeAll`: what can happen to a pool, one thing at a time;
* `sublist_since_changeAll`: that the oldest idle connections stand in front;
* `decisions`, `sweep_eq`: what a sweep decides about each connection it looks at;
* `evicted_iff_lt`, `min_le_length_kept`: which are evicted, and how many stay idle;
* `length_refillUpTo`: how many are idle when enough were opened;
* `sweep_then_refill`: all of it, for every pool and at any time.
-/

namespace Syslog.Pool

variable {p : Pool} {isAlive : Nat → Bool} {now : Time.Duration}

/-! ## 1. What can happen to a pool -/

/-- What can happen to a pool, in steps so small that others happen in between. -/
inductive Change where
  | request (isAlive : Nat → Bool)
  /-- A connection was opened for a borrower, or not. -/
  | finish (outcome : Except TransportError Nat)
  | giveUp
  | release (isAlive : Nat → Bool) (now : Time.Duration) (connection : Nat)
  | invalidate (connection : Nat)
  | sweep (isAlive : Nat → Bool) (now : Time.Duration)
  /-- A connection was opened to be idle. -/
  | addIdle (now : Time.Duration) (connection : Nat)
  | clearIdle
  | close

/-- The time from which on a connection is idle by it. -/
def Change.stamp? : Change → Option Nat
  | .release _ now _ | .addIdle now _ => some now.nanoseconds
  | _ => none

/-- One change. -/
def change (p : Pool) : Change → Pool
  | .request isAlive => (p.request isAlive).2
  | .finish outcome => (p.finish outcome).2
  | .giveUp => p.giveUp.2
  | .release isAlive now c => p.release isAlive now c
  | .invalidate c => p.invalidate c
  | .sweep isAlive now => (p.sweep isAlive now).2
  | .addIdle now c => p.addIdle now c
  | .clearIdle => p.clearIdle.2
  | .close => p.close

/-- Changes, one after the other. -/
def changeAll (p : Pool) (changes : List Change) : Pool := changes.foldl change p

/-- A change leaves the settings, and a pool with a bound keeps it. -/
theorem change_keeps (p : Pool) (change : Change) :
    (p.change change).settings = p.settings ∧
      ((p.change change).permits = none ↔ p.permits = none) := by
  cases change with
  | request isAlive =>
    simp only [Pool.change, request, takeIdle]
    split
    · exact ⟨rfl, Iff.rfl⟩
    · split
      · exact ⟨rfl, Iff.rfl⟩
      · cases (p.takePermit.pick isAlive p.takePermit.idle.reverse).1 <;>
          exact ⟨rfl, Option.map_eq_none_iff⟩
  | finish outcome =>
    cases outcome with
    | ok c => exact ⟨rfl, Iff.rfl⟩
    | error e => exact ⟨rfl, Option.map_eq_none_iff⟩
  | release isAlive now c =>
    simp only [Pool.change, release]
    split <;> exact ⟨rfl, Option.map_eq_none_iff⟩
  | invalidate c => exact ⟨rfl, Option.map_eq_none_iff⟩
  | close =>
    simp only [Pool.change, close]
    split <;> exact ⟨rfl, Iff.rfl⟩
  | giveUp | sweep _ _ | addIdle _ _ | clearIdle => exact ⟨rfl, Iff.rfl⟩

theorem changeAll_keeps (p : Pool) (changes : List Change) :
    (p.changeAll changes).settings = p.settings ∧
      ((p.changeAll changes).permits = none ↔ p.permits = none) := by
  induction changes generalizing p with
  | nil => exact ⟨rfl, Iff.rfl⟩
  | cons first rest ih =>
    obtain ⟨settings, permits⟩ := p.change_keeps first
    obtain ⟨settings', permits'⟩ := ih (p.change first)
    exact ⟨settings'.trans settings, permits'.trans permits⟩

/-! ## 2. What a sweep decides -/

/-- What becomes of the connections in front, of which so many were kept so far, and behind which
there are so many. -/
def verdicts (p : Pool) (isAlive : Nat → Bool) (now : Time.Duration) (behind : Nat) :
    (kept : Nat) → List Idle → List (Idle × Verdict)
  | _, [] => []
  | kept, e :: front =>
    let v := p.judge isAlive now e (front.length + behind + kept)
    (e, v) :: p.verdicts isAlive now behind (if v = .kept then kept + 1 else kept) front

/-- What a sweep decides about each connection that it looks at. -/
def decisions (p : Pool) (isAlive : Nat → Bool) (now : Time.Duration) : List (Idle × Verdict) :=
  p.verdicts isAlive now (p.idle.drop p.budget).length 0 (p.idle.take p.budget)

/-- The connections that are kept. -/
def keptOf (decided : List (Idle × Verdict)) : List Idle :=
  (decided.filter (·.2 = .kept)).map (·.1)

/-- How many connections have met with a verdict. -/
def number (v : Verdict) (decided : List (Idle × Verdict)) : Nat := decided.countP (·.2 = v)

/-- What is reported about them. -/
def reportOf (decided : List (Idle × Verdict)) : EvictionReport where
  examined := decided.length
  evicted := number .evicted decided
  softEvicted := number .softEvicted decided
  failedProbe := number .failedProbe decided

theorem number_cons (v : Verdict) (x : Idle × Verdict) (decided : List (Idle × Verdict)) :
    number v (x :: decided) = number v decided + if x.2 = v then 1 else 0 := by
  simp only [number, List.countP_cons, decide_eq_true_eq]

theorem length_keptOf (decided : List (Idle × Verdict)) :
    (keptOf decided).length = number .kept decided := by
  rw [keptOf, List.length_map, number, List.countP_eq_length_filter]

theorem map_fst_verdicts (p : Pool) (isAlive : Nat → Bool) (now : Time.Duration)
    (behind kept : Nat) (front : List Idle) :
    (p.verdicts isAlive now behind kept front).map (·.1) = front := by
  induction front generalizing kept with
  | nil => rfl
  | cons e front ih => exact congrArg (e :: ·) (ih _)

/-- What has been noted for the connections is what is reported. -/
theorem foldl_note (decided : List (Idle × Verdict)) (r : EvictionReport) :
    decided.foldl (fun r x => r.note x.2) r =
      { examined := r.examined + (reportOf decided).examined
        evicted := r.evicted + (reportOf decided).evicted
        softEvicted := r.softEvicted + (reportOf decided).softEvicted
        failedProbe := r.failedProbe + (reportOf decided).failedProbe } := by
  induction decided generalizing r with
  | nil => rfl
  | cons x rest ih =>
    obtain ⟨e, v⟩ := x
    rw [List.foldl_cons, ih]
    cases v <;> simp [reportOf, number_cons, EvictionReport.note] <;> omega

theorem examine_eq (p : Pool) (isAlive : Nat → Bool) (now : Time.Duration) (behind : Nat)
    (kept front : List Idle) (r : EvictionReport) :
    p.examine isAlive now behind kept front r =
      (kept ++ keptOf (p.verdicts isAlive now behind kept.length front),
        (p.verdicts isAlive now behind kept.length front).foldl (fun r x => r.note x.2) r) := by
  induction front generalizing kept r with
  | nil => exact Prod.ext (List.append_nil kept).symm rfl
  | cons e front ih =>
    simp only [examine, verdicts, List.foldl_cons]
    generalize p.judge isAlive now e (front.length + behind + kept.length) = v
    by_cases stays : v = .kept
    · rw [if_pos stays, if_pos stays, ih, List.length_append, List.length_singleton]
      simp [keptOf, stays]
    · rw [if_neg stays, if_neg stays, ih]
      simp [keptOf, stays]

/-- A decision is made about each connection that may be looked at. -/
theorem examined_decisions (p : Pool) (isAlive : Nat → Bool) (now : Time.Duration) :
    (reportOf (p.decisions isAlive now)).examined = p.budget := by
  have fronts := p.map_fst_verdicts isAlive now (p.idle.drop p.budget).length 0
    (p.idle.take p.budget)
  have lengths := congrArg List.length fronts
  rwa [List.length_map, List.length_take_of_le p.budget_le] at lengths

/-- **A sweep does what was decided**, and reports it. -/
theorem sweep_eq (p : Pool) (isAlive : Nat → Bool) (now : Time.Duration) :
    (p.sweep isAlive now).1 = reportOf (p.decisions isAlive now) ∧
      (p.sweep isAlive now).2.idle = keptOf (p.decisions isAlive now) ++ p.idle.drop p.budget := by
  simp only [sweep, examine_eq, List.length_nil, List.nil_append]
  refine ⟨?_, rfl⟩
  rw [foldl_note]
  simp only [Nat.zero_add]
  rfl

/-! ## 3. The oldest stand in front -/

/-- The times from which on the idle connections have been so. -/
def since (p : Pool) : List Nat := p.idle.map (·.since.nanoseconds)

theorem since_concat (p : Pool) (e : Idle) :
    (p.idle ++ [e]).map (·.since.nanoseconds) = p.since ++ [e.since.nanoseconds] := List.map_append

theorem pick_sublist (p : Pool) (isAlive : Nat → Bool) (entries : List Idle) :
    (p.pick isAlive entries).2.1.Sublist entries := by
  induction entries with
  | nil => exact .slnil
  | cons e later ih =>
    unfold pick
    split
    · exact ih.cons e
    · exact List.sublist_cons_self e later

theorem takeIdle_sublist (p : Pool) (isAlive : Nat → Bool) :
    (p.takeIdle isAlive).2.idle.Sublist p.idle := by
  have picked := (p.pick_sublist isAlive p.idle.reverse).reverse
  rwa [List.reverse_reverse] at picked

theorem sweep_sublist (p : Pool) (isAlive : Nat → Bool) (now : Time.Duration) :
    (p.sweep isAlive now).2.idle.Sublist p.idle := by
  have kept : (keptOf (p.decisions isAlive now)).Sublist
      ((p.decisions isAlive now).map (·.1)) := List.filter_sublist.map _
  rw [decisions, map_fst_verdicts] at kept
  have both := kept.append (List.Sublist.refl (p.idle.drop p.budget))
  rwa [List.take_append_drop, ← decisions, ← (p.sweep_eq isAlive now).2] at both

/-- A change takes idle connections away, or adds one at the end. -/
theorem sublist_since_change (p : Pool) (change : Change) :
    (p.change change).since.Sublist (p.since ++ change.stamp?.toList) := by
  have fewer : ∀ {q : Pool}, q.idle.Sublist p.idle → q.since.Sublist (p.since ++ []) := by
    intro q idle
    rw [List.append_nil]
    exact idle.map _
  cases change with
  | request isAlive =>
    refine fewer ?_
    have taken := p.takePermit.takeIdle_sublist isAlive
    simp only [Pool.change, request]
    split
    · exact .refl _
    · split
      · exact .refl _
      · generalize p.takePermit.takeIdle isAlive = result at taken
        obtain ⟨_ | c, q⟩ := result <;> exact taken
  | finish outcome => exact fewer (by cases outcome <;> exact .refl _)
  | release isAlive now c =>
    simp only [Pool.change, release]
    split
    · exact List.sublist_append_left _ _
    · exact since_concat p ⟨c, now⟩ ▸ .refl _
  | addIdle now c => exact since_concat p ⟨c, now⟩ ▸ .refl _
  | sweep isAlive now => exact fewer (p.sweep_sublist isAlive now)
  | clearIdle => exact fewer (List.nil_sublist _)
  | close =>
    refine fewer ?_
    simp only [Pool.change, close]
    split
    · exact .refl _
    · exact List.nil_sublist _
  | giveUp | invalidate _ => exact fewer (.refl _)

/-- **After any run the idle connections are in the order in which they became idle.** -/
theorem sublist_since_changeAll (p : Pool) (changes : List Change) :
    (p.changeAll changes).since.Sublist (p.since ++ changes.filterMap Change.stamp?) := by
  induction changes generalizing p with
  | nil => exact List.sublist_append_left _ _
  | cons first rest ih =>
    have one := (p.sublist_since_change first).append
      (List.Sublist.refl (rest.filterMap Change.stamp?))
    have stamps : first.stamp?.toList ++ rest.filterMap Change.stamp? =
        (first :: rest).filterMap Change.stamp? := by
      cases stamp : first.stamp? with
      | none => rw [List.filterMap_cons_none stamp, Option.toList_none, List.nil_append]
      | some time => rw [List.filterMap_cons_some stamp, Option.toList_some, List.singleton_append]
    rw [List.append_assoc, stamps] at one
    exact (ih (p.change first)).trans one

/-! ## 4. Which connections are closed -/

/-- Connections in the order in which they became idle. -/
def OldestFirst (entries : List Idle) : Prop :=
  entries.Pairwise fun a b => a.since.nanoseconds ≤ b.since.nanoseconds

/-- Has the connection been idle for longer than it may be? -/
def isOverdue (p : Pool) (now : Time.Duration) (e : Idle) : Bool :=
  exceeds ⟨now.nanoseconds - e.since.nanoseconds⟩ p.settings.minEvictableIdleTime

theorem isOverdue_iff {e : Idle} : p.isOverdue now e = true ↔
    0 < p.settings.minEvictableIdleTime.nanoseconds ∧
      p.settings.minEvictableIdleTime.nanoseconds < now.nanoseconds - e.since.nanoseconds := by
  simp [isOverdue, exceeds]

/-- An older one is overdue as well. -/
theorem isOverdue_of_le {a b : Idle} (older : a.since.nanoseconds ≤ b.since.nanoseconds)
    (overdue : p.isOverdue now b = true) : p.isOverdue now a = true := by
  rw [isOverdue_iff] at overdue ⊢
  omega

/-- The age alone decides who is evicted. -/
theorem judge_eq_evicted_iff {e : Idle} {others : Nat} :
    p.judge isAlive now e others = .evicted ↔ p.isOverdue now e = true := by
  unfold judge isOverdue
  dsimp only
  split
  · exact iff_of_true rfl ‹_›
  · refine iff_of_false ?_ ‹_›
    split
    · exact Verdict.noConfusion
    · split <;> exact Verdict.noConfusion

/-- Where enough others are idle, and only there, age leads to a soft eviction. -/
theorem minIdle_le_of_softEvicted {e : Idle} {others : Nat}
    (soft : p.judge isAlive now e others = .softEvicted) : p.settings.minIdle ≤ others := by
  unfold judge at soft
  dsimp only at soft
  split at soft
  · cases soft
  · split at soft
    · rename_i enough
      simpa using (Bool.and_eq_true_iff.1 enough).2
    · split at soft <;> cases soft

theorem mem_verdicts {behind kept : Nat} {front : List Idle} {x : Idle × Verdict}
    (member : x ∈ p.verdicts isAlive now behind kept front) :
    x.1 ∈ front ∧ ∃ others, x.2 = p.judge isAlive now x.1 others := by
  induction front generalizing kept with
  | nil => cases member
  | cons e front ih =>
    rcases List.mem_cons.1 member with rfl | later
    · exact ⟨List.mem_cons_self, _, rfl⟩
    · obtain ⟨inside, judged⟩ := ih later
      exact ⟨List.mem_cons_of_mem e inside, judged⟩

theorem evicted_iff_of_mem {behind kept : Nat} {front : List Idle} {x : Idle × Verdict}
    (member : x ∈ p.verdicts isAlive now behind kept front) :
    x.2 = .evicted ↔ p.isOverdue now x.1 = true := by
  obtain ⟨-, others, judged⟩ := mem_verdicts member
  rw [judged]
  exact judge_eq_evicted_iff

/-- Members that stand before all others are those at the first positions. -/
theorem lt_countP_iff {α : Type} {q : α → Bool} {l : List α}
    (before : l.Pairwise fun a b => q b = true → q a = true) {i : Nat} {x : α}
    (at_i : l[i]? = some x) : q x = true ↔ i < l.countP q := by
  induction l generalizing i with
  | nil => cases at_i
  | cons a l ih =>
    obtain ⟨front, later⟩ := List.pairwise_cons.1 before
    by_cases chosen : q a = true
    · rw [List.countP_cons_of_pos chosen]
      cases i with
      | zero =>
        cases at_i
        exact iff_of_true chosen (Nat.succ_pos _)
      | succ i => exact (ih later at_i).trans Nat.succ_lt_succ_iff.symm
    · have none_later : l.countP q = 0 :=
        List.countP_eq_zero.2 fun y member picked => chosen (front y member picked)
      rw [List.countP_cons_of_neg chosen, none_later]
      refine iff_of_false (fun picked => chosen ?_) (Nat.not_lt_zero i)
      cases i with
      | zero =>
        cases at_i
        exact picked
      | succ i => exact front x (List.mem_of_getElem? at_i) picked

/-- **The connections that are evicted stand before all others.** -/
theorem evicted_iff_lt {behind kept : Nat} {front : List Idle} (sorted : OldestFirst front)
    {i : Nat} {x : Idle × Verdict}
    (at_i : (p.verdicts isAlive now behind kept front)[i]? = some x) :
    x.2 = .evicted ↔ i < number .evicted (p.verdicts isAlive now behind kept front) := by
  have ordered := sorted
  rw [OldestFirst, ← p.map_fst_verdicts isAlive now behind kept front, List.pairwise_map] at ordered
  have before := ordered.imp_of_mem fun {a b} mem_a mem_b older => by
    show decide (b.2 = .evicted) = true → decide (a.2 = .evicted) = true
    rw [decide_eq_true_iff, decide_eq_true_iff, evicted_iff_of_mem mem_a, evicted_iff_of_mem mem_b]
    exact isOverdue_of_le older
  rw [number, ← lt_countP_iff before at_i, decide_eq_true_iff]

/-- **Enough stay idle**: as many as are wanted, or all that are not evicted, unless a probe fails.
What counts for a soft eviction is the number of others at that moment. It does not fall below that
number later, for nothing behind a connection that is not overdue is evicted. -/
theorem min_le_length_kept {behind kept : Nat} {front : List Idle} (sorted : OldestFirst front)
    (none_failed : number .failedProbe (p.verdicts isAlive now behind kept front) = 0) :
    min p.settings.minIdle (kept + front.length + behind -
        number .evicted (p.verdicts isAlive now behind kept front)) ≤
      kept + (keptOf (p.verdicts isAlive now behind kept front)).length + behind := by
  rw [length_keptOf]
  induction front generalizing kept with
  | nil => exact Nat.le_trans (Nat.min_le_right _ _) (Nat.sub_le _ _)
  | cons e front ih =>
    obtain ⟨older, later⟩ := List.pairwise_cons.1 sorted
    rw [verdicts, number_cons] at none_failed
    rw [verdicts, number_cons, number_cons, List.length_cons]
    have rest := ih later (Nat.eq_zero_of_add_eq_zero_right none_failed)
    cases judged : p.judge isAlive now e (front.length + behind + kept) with
    | kept =>
      rw [judged] at rest
      simp only [if_true, reduceCtorEq, if_false] at rest ⊢
      omega
    | evicted =>
      rw [judged] at rest
      simp only [if_true, reduceCtorEq, if_false] at rest ⊢
      omega
    | softEvicted =>
      have enough := minIdle_le_of_softEvicted judged
      have young : ¬ p.isOverdue now e = true := fun overdue => by
        rw [judge_eq_evicted_iff.2 overdue] at judged
        cases judged
      have none_evicted : number .evicted (p.verdicts isAlive now behind kept front) = 0 := by
        refine List.countP_eq_zero.2 fun x member evicted => young ?_
        have overdue := (evicted_iff_of_mem member).1 (of_decide_eq_true evicted)
        exact isOverdue_of_le (older x.1 (mem_verdicts member).1) overdue
      rw [judged] at rest
      simp only [reduceCtorEq, if_false] at rest ⊢
      omega
    | failedProbe =>
      rw [judged, if_pos rfl] at none_failed
      cases none_failed

/-! ## 5. Opening what is missing -/

/-- How many connections are to be idle: in a pool with a bound no more than may be had beside those
that are lent. -/
def wanted (p : Pool) : Nat :=
  match p.active? with
  | none => p.settings.minIdle
  | some out => min p.settings.minIdle (p.settings.maxActive - out)

theorem wantsIdle_iff_lt (running : p.closed = false) :
    p.wantsIdle = true ↔ p.idle.length < p.wanted := by
  unfold wantsIdle wanted
  cases p.active? with
  | none => simp [running]
  | some out =>
    simp [running]
    omega

/-- **Where dials succeed, connections are opened until enough are idle.** -/
theorem length_refillUpTo (running : p.closed = false) {w : Wire}
    (answers : ∀ k, w.dials.answer k = .ok ()) (now : Time.Duration) (n : Nat) :
    (refillUpTo Wire.dial now n p w).2.1.idle.length =
      max p.idle.length (min (p.idle.length + n) p.wanted) := by
  induction n generalizing p w with
  | zero =>
    show p.idle.length = _
    omega
  | succ n ih =>
    unfold refillUpTo
    by_cases missing : p.wantsIdle = true
    · rw [if_pos missing]
      obtain ⟨-, opened, -⟩ | ⟨e, failed, -, -⟩ := w.dial_cases
      · have later : ∀ k, w.dial.2.dials.answer k = .ok () := fun k => by
          rw [w.dials_dial, Script.answer_next]
          exact answers (k + 1)
        have rest := ih (p := p.addIdle now w.streams.length) running later
        have one_more : (p.addIdle now w.streams.length).idle.length = p.idle.length + 1 :=
          List.length_append
        have same : (p.addIdle now w.streams.length).wanted = p.wanted := rfl
        rw [wantsIdle_iff_lt running] at missing
        rw [one_more, same] at rest
        rw [show w.dial = (.ok w.streams.length, w.dial.2) from Prod.ext opened rfl]
        show (refillUpTo Wire.dial now n _ w.dial.2).2.1.idle.length = _
        omega
      · rw [answers 0] at failed
        cases failed
    · rw [if_neg missing]
      rw [wantsIdle_iff_lt running] at missing
      show p.idle.length = _
      omega

theorem length_refill (running : p.closed = false) {w : Wire}
    (answers : ∀ k, w.dials.answer k = .ok ()) (now : Time.Duration) :
    (p.refill Wire.dial now w).2.1.idle.length = max p.idle.length p.wanted := by
  have few : p.wanted ≤ p.settings.minIdle := by
    unfold wanted
    cases p.active? with
    | none => exact Nat.le_refl _
    | some out => exact Nat.min_le_left _ _
  rw [refill, length_refillUpTo running answers, Nat.min_eq_right (by omega)]

/-! ## 6. Sweeps and refills of any pool -/

/-- **Sweeps and refills of any pool.** A pool is new, and then changes so that the times at which
connections become idle do not go back. Then the idle connections stand in the order in which they
became idle. A sweep at any time looks at so many in front as it may, and decides about each; it
keeps the others, and those of which it decides so, in their order. The connections that have been
idle for longer than they may, and only those, are evicted, and they are the first. Unless a probe
fails, as many stay idle as are wanted, or all that are not evicted. If the pool is open and dials
succeed, so many are idle after a refill as are wanted beside those that are out, or as there were
before. -/
theorem sweep_then_refill (name : String) (settings : PoolSettings) {changes : List Change}
    (clock : (changes.filterMap Change.stamp?).Pairwise (· ≤ ·)) :
    let p := ({ name, settings } : Pool).changeAll changes
    OldestFirst p.idle ∧
    ∀ isAlive now,
      let decided := p.decisions isAlive now
      let r := (p.sweep isAlive now).1
      let q := (p.sweep isAlive now).2
      r.examined = (if settings.testsPerEvictionRun = 0 then p.idle.length
        else min settings.testsPerEvictionRun p.idle.length) ∧
      decided.map (·.1) = p.idle.take r.examined ∧
      q.idle = keptOf decided ++ p.idle.drop r.examined ∧
      q.idle.length + r.closed = p.idle.length ∧
      r = reportOf decided ∧
      (∀ i e v, decided[i]? = some (e, v) →
        (v = .evicted ↔ 0 < settings.minEvictableIdleTime.nanoseconds ∧
          settings.minEvictableIdleTime.nanoseconds < now.nanoseconds - e.since.nanoseconds) ∧
        (v = .evicted ↔ i < r.evicted)) ∧
      (r.failedProbe = 0 → min settings.minIdle (p.idle.length - r.evicted) ≤ q.idle.length) ∧
      (q.closed = false → ∀ w : Wire, (∀ k, w.dials.answer k = .ok ()) → ∀ later,
        let refilled := (q.refill Wire.dial later w).2.1.idle.length
        (settings.maxActive = 0 → refilled = max q.idle.length settings.minIdle) ∧
        (0 < settings.maxActive → ∃ out, q.active? = some out ∧
          refilled = max q.idle.length (min settings.minIdle (settings.maxActive - out)))) := by
  intro p
  obtain ⟨same_settings, bounded⟩ : p.settings = settings ∧ (p.permits = none ↔
      (if settings.maxActive > 0 then some settings.maxActive else none) = none) :=
    changeAll_keeps { name, settings } changes
  have sorted : OldestFirst p.idle := by
    have ordered := clock.sublist (sublist_since_changeAll { name, settings } changes)
    exact List.pairwise_map.1 ordered
  refine ⟨sorted, fun isAlive now => ?_⟩
  intro decided r q
  obtain ⟨report, left⟩ : r = reportOf decided ∧ q.idle = keptOf decided ++ p.idle.drop p.budget :=
    p.sweep_eq isAlive now
  have examined : r.examined = p.budget := report ▸ p.examined_decisions isAlive now
  have in_front : OldestFirst (p.idle.take p.budget) := sorted.sublist (List.take_sublist _ _)
  refine ⟨?_, ?_, examined ▸ left, p.length_sweep isAlive now, report, fun i e v at_i => ⟨?_, ?_⟩,
    fun none_failed => ?_, fun running w answers later => ?_⟩
  · rw [examined, budget, same_settings]
    cases settings.testsPerEvictionRun with
    | zero => rfl
    | succ n => rfl
  · rw [examined]
    exact p.map_fst_verdicts isAlive now _ _ _
  · rw [← same_settings]
    exact (evicted_iff_of_mem (List.mem_of_getElem? at_i)).trans isOverdue_iff
  · rw [report]
    exact evicted_iff_lt in_front at_i
  · rw [report] at none_failed ⊢
    have enough := min_le_length_kept in_front none_failed
    rw [Nat.zero_add, Nat.zero_add, ← List.length_append, ← List.length_append,
      List.take_append_drop, same_settings] at enough
    rw [left]
    exact enough
  · have refilled := length_refill running answers later
    have q_settings : q.settings = settings := same_settings
    rw [wanted, q_settings] at refilled
    refine ⟨fun unbounded => ?_, fun bound => ?_⟩
    · have no_permits : p.permits = none := bounded.2 (if_neg (by omega))
      have none_out : q.active? = none := congrArg (Option.map _) no_permits
      rw [none_out] at refilled
      exact refilled
    · have some_permits : p.permits ≠ none := fun no_permits => by
        have no_bound := bounded.1 no_permits
        rw [if_pos bound] at no_bound
        cases no_bound
      obtain ⟨free, left_over⟩ := Option.ne_none_iff_exists'.1 some_permits
      have out : q.active? = some (q.settings.maxActive - free) :=
        congrArg (Option.map _) left_over
      rw [out] at refilled
      exact ⟨_, out, refilled⟩

/-- Five connections are lent, and four of them come back. The first of these is too old at the sweep,
the second has been idle for a while beside two others, the third beside one, and the peer of the
last has gone. One more is then opened beside the one that is still out. -/
theorem sweep_then_refill_of_all_verdicts :
    let settings : PoolSettings :=
      { maxActive := 5, minIdle := 2, minEvictableIdleTime := ⟨60⟩,
        softMinEvictableIdleTime := ⟨30⟩, testsPerEvictionRun := 0, testWhileIdle := true }
    let lend (c : Nat) : List Change := [.request fun _ => true, .finish (.ok c)]
    let back (now c : Nat) : Change := .release (fun _ => true) ⟨now⟩ c
    let changes : List Change :=
      (List.range 5).flatMap lend ++ [back 0 1, back 10 2, back 20 3, back 30 4]
    let isAlive : Nat → Bool := (· != 4)
    let p := ({ name := "p", settings } : Pool).changeAll changes
    let q := (p.sweep isAlive ⟨70⟩).2
    (changes.filterMap Change.stamp?).Pairwise (· ≤ ·) ∧
      (p.decisions isAlive ⟨70⟩).map (·.2) = [.evicted, .softEvicted, .kept, .failedProbe] ∧
      q.idleConnections = [3] ∧ (q.refill Wire.dial ⟨70⟩ {}).2.1.idle.length = 2 := by
  intro settings lend back changes isAlive
  have clock : (changes.filterMap Change.stamp?).Pairwise (· ≤ ·) := by decide
  obtain ⟨-, -, -, -, -, -, -, opened⟩ :=
    (sweep_then_refill "p" settings clock).2 isAlive ⟨70⟩
  obtain ⟨out, lent, refilled⟩ := (opened (by decide) {} (fun _ => rfl) ⟨70⟩).2 (by decide)
  obtain rfl : out = 1 := Option.some.inj (lent.symm.trans (by decide))
  refine ⟨clock, by decide, by decide, refilled.trans (by decide)⟩

end Syslog.Pool
