import Syslog.Proofs.Sender
import Syslog.Transport.Pooled

/-!
# What is done with a pool

A pool is asked for connections, gets them back or learns that they are lost, and looks after those
that are idle, one thing after the other.

* `Wire.FailsOutside`: a dial that fails does so for reasons of the connection;
* `Operation`, `performAll`: what is done with a pool, and a run of it over a wire;
* `takeIdle_cases`, `examine_splits`: what becomes of idle connections;
* `Acquired`, `acquired_acquire`: the five ways in which a request for a connection ends;
* `performAll_keeps`: what no operation changes.
-/

namespace Syslog

/-! ## 1. Dials -/

/-- A dial that fails does so for reasons of the connection, and not of any pool. -/
def Wire.FailsOutside (w : Wire) : Prop :=
  ∀ k e, w.dials.answer k = .error e → e.isConnectionError = true

/-- A dial opens the connection with the next number, or none. -/
theorem Wire.dial_cases (w : Wire) :
    (w.dials.answer 0 = .ok () ∧ w.dial.1 = .ok w.streams.length ∧
        w.dial.2.streams.length = w.streams.length + 1) ∨
      ∃ e, w.dials.answer 0 = .error e ∧ w.dial.1 = .error e ∧ w.dial.2.streams = w.streams := by
  rw [← Script.next_fst, dial]
  obtain ⟨outcome, dials⟩ := w.dials.next
  cases outcome with
  | ok _ => exact .inl ⟨rfl, rfl, by simp⟩
  | error e => exact .inr ⟨e, rfl, rfl, rfl⟩

theorem Wire.dials_dial (w : Wire) : w.dial.2.dials = w.dials.next.2 := by
  rw [dial]
  obtain ⟨outcome, dials⟩ := w.dials.next
  cases outcome <;> rfl

theorem Wire.FailsOutside.dial {w : Wire} (outside : w.FailsOutside) : w.dial.2.FailsOutside := by
  intro k e failed
  rw [w.dials_dial, Script.answer_next] at failed
  exact outside (k + 1) e failed

namespace Pool

/-! ## 2. Runs of a pool -/

/-- What is done with a pool. -/
inductive Operation where
  | acquire (isAlive : Nat → Bool)
  | release (isAlive : Nat → Bool) (now : Time.Duration) (connection : Nat)
  | invalidate (connection : Nat)
  | sweep (isAlive : Nat → Bool) (now : Time.Duration)
  | refill (now : Time.Duration)
  | clearIdle
  | close

/-- One operation. Only a connection that is lent can come back or be lost. -/
def perform (p : Pool) (w : Wire) : Operation → Pool × Wire
  | .acquire isAlive => (p.acquire isAlive Wire.dial w).2
  | .release isAlive now c => (if c ∈ p.lent then p.release isAlive now c else p, w)
  | .invalidate c => (if c ∈ p.lent then p.invalidate c else p, w)
  | .sweep isAlive now => ((p.sweep isAlive now).2, w)
  | .refill now => (p.refill Wire.dial now w).2
  | .clearIdle => (p.clearIdle.2, w)
  | .close => (p.close, w)

/-- Operations, one after the other. -/
def performAll (p : Pool) (w : Wire) : List Operation → Pool × Wire
  | [] => (p, w)
  | op :: rest =>
    let (p, w) := p.perform w op
    p.performAll w rest

variable {p : Pool} {w : Wire}

/-! ## 3. Idle connections -/

/-- The connections that are idle, oldest first. -/
def idleConnections (p : Pool) : List Nat := p.idle.map (·.connection)

/-- What is picked, what stays and what is found dead make up the entries. -/
theorem pick_splits {isAlive : Nat → Bool} {entries rest : List Idle} {found : Option Nat}
    {dead : Nat} (picked : p.pick isAlive entries = (found, rest, dead)) :
    rest.length + found.toList.length + dead = entries.length ∧
      (∀ c, (rest.map (·.connection)).count c + found.toList.count c ≤
        (entries.map (·.connection)).count c) ∧
      (found = none → rest = []) := by
  induction entries generalizing dead with
  | nil =>
    cases picked
    exact ⟨rfl, fun _ => Nat.le_refl _, fun _ => rfl⟩
  | cons e later ih =>
    unfold pick at picked
    split at picked
    · cases inside : p.pick isAlive later with
      | mk found' others =>
        rw [inside] at picked
        cases picked
        obtain ⟨lengths, counts, all⟩ := ih inside
        refine ⟨?_, fun c => ?_, all⟩
        · rw [List.length_cons]
          omega
        · have kept := counts c
          rw [List.map_cons, List.count_cons]
          omega
    · cases picked
      refine ⟨by simp, fun c => ?_, fun none_found => nomatch none_found⟩
      simp [List.count_cons]

/-- Either an idle connection is taken, or all were dead and none is left. -/
theorem takeIdle_cases (p : Pool) (isAlive : Nat → Bool) :
    (∃ c rest dead, p.takeIdle isAlive = (some c, { p with idle := rest }.noteDestroyed dead) ∧
        rest.length + 1 + dead = p.idle.length ∧
        ∀ x, (rest.map (·.connection)).count x + [c].count x ≤ p.idleConnections.count x) ∨
      p.takeIdle isAlive = (none, p.clearIdle.2) := by
  unfold takeIdle
  cases picked : p.pick isAlive p.idle.reverse with
  | mk found others =>
    obtain ⟨rest, dead⟩ := others
    obtain ⟨lengths, counts, all⟩ := pick_splits picked
    cases found with
    | some c =>
      refine .inl ⟨c, rest.reverse, dead, rfl, ?_, fun x => ?_⟩
      · simpa using lengths
      · have kept := counts x
        rw [List.map_reverse, List.count_reverse] at kept ⊢
        exact kept
    | none =>
      have nothing : rest = [] := all rfl
      have dead_all : dead = p.idle.length := by simpa [nothing] using lengths
      subst nothing dead_all
      exact .inr rfl

/-- A verdict other than `kept` closes a connection. -/
theorem EvictionReport.closed_note (r : EvictionReport) (v : Verdict) :
    (r.note v).closed = r.closed + if v = .kept then 0 else 1 := by
  cases v <;> simp [note, closed] <;> omega

/-- What a sweep looks at is kept or closed. -/
theorem examine_splits (p : Pool) (isAlive : Nat → Bool) (now : Time.Duration) (behind : Nat)
    (kept front : List Idle) (r : EvictionReport) :
    (p.examine isAlive now behind kept front r).1.length +
        (p.examine isAlive now behind kept front r).2.closed =
          kept.length + front.length + r.closed ∧
      ∀ c, ((p.examine isAlive now behind kept front r).1.map (·.connection)).count c ≤
        (kept.map (·.connection)).count c + (front.map (·.connection)).count c := by
  induction front generalizing kept r with
  | nil => exact ⟨rfl, fun _ => Nat.le_refl _⟩
  | cons e front ih =>
    simp only [examine]
    generalize p.judge isAlive now e (front.length + behind + kept.length) = v
    by_cases stays : v = .kept
    · obtain ⟨lengths, counts⟩ := ih (kept ++ [e]) (r.note v)
      rw [EvictionReport.closed_note, if_pos stays, List.length_append,
        List.length_singleton] at lengths
      rw [if_pos stays]
      refine ⟨by rw [lengths, List.length_cons]; omega, fun c => ?_⟩
      have few := counts c
      rw [List.map_append, List.count_append, List.map_singleton, List.count_singleton] at few
      rw [List.map_cons, List.count_cons]
      omega
    · obtain ⟨lengths, counts⟩ := ih kept (r.note v)
      rw [EvictionReport.closed_note, if_neg stays] at lengths
      rw [if_neg stays]
      refine ⟨by rw [lengths, List.length_cons]; omega, fun c => ?_⟩
      have few := counts c
      rw [List.map_cons, List.count_cons]
      omega

/-- A sweep looks at no more connections than there are. -/
theorem budget_le (p : Pool) : p.budget ≤ p.idle.length := by
  unfold budget
  split
  · exact Nat.le_refl _
  · exact Nat.min_le_right _ _

/-- What a sweep does not close stays idle. -/
theorem length_sweep (p : Pool) (isAlive : Nat → Bool) (now : Time.Duration) :
    (p.sweep isAlive now).2.idle.length + (p.sweep isAlive now).1.closed = p.idle.length := by
  obtain ⟨lengths, -⟩ := p.examine_splits isAlive now (p.idle.drop p.budget).length []
    (p.idle.take p.budget) {}
  have none_yet : ({} : EvictionReport).closed = 0 := rfl
  rw [List.length_nil, none_yet] at lengths
  have whole := congrArg List.length (List.take_append_drop p.budget p.idle)
  rw [List.length_append] at whole
  simp only [sweep, noteDestroyed, List.length_append]
  omega

/-- A sweep only takes connections away. -/
theorem count_sweep_le (p : Pool) (isAlive : Nat → Bool) (now : Time.Duration) (c : Nat) :
    (p.sweep isAlive now).2.idleConnections.count c ≤ p.idleConnections.count c := by
  have few := (p.examine_splits isAlive now (p.idle.drop p.budget).length []
    (p.idle.take p.budget) {}).2 c
  have whole : p.idleConnections.count c =
      ((p.idle.take p.budget).map (·.connection)).count c +
        ((p.idle.drop p.budget).map (·.connection)).count c := by
    rw [idleConnections, ← List.count_append, ← List.map_append, List.take_append_drop]
  rw [List.map_nil, List.count_nil, Nat.zero_add] at few
  refine Nat.le_trans (Nat.le_of_eq ?_)
    (Nat.le_trans (Nat.add_le_add_right few _) (Nat.le_of_eq whole.symm))
  rw [← List.count_append, ← List.map_append]
  rfl

/-- When an idle connection is to be opened. -/
theorem wantsIdle_eq_true_iff : p.wantsIdle = true ↔
    p.closed = false ∧ p.idle.length < p.settings.minIdle ∧
      ∀ free, p.permits = some free →
        p.settings.maxActive - free + p.idle.length < p.settings.maxActive := by
  unfold wantsIdle active?
  cases p.permits <;> simp [and_assoc]

/-! ## 4. Requests -/

/-- How a request for a connection ends. -/
inductive Acquired (p : Pool) (w : Wire) : Except TransportError Nat → Pool → Wire → Prop
  | closed (shut : p.closed = true) : Acquired p w (.error .poolClosed) p w
  | exhausted (running : p.closed = false) (used : p.permits = some 0) :
      Acquired p w (.error (.poolExhausted p.settings.maxWait)) p.giveUp.2 w
  | reused {c dead : Nat} {rest : List Idle} (running : p.closed = false)
      (left : p.permits ≠ some 0) (lengths : rest.length + 1 + dead = p.idle.length)
      (counts : ∀ x, (rest.map (·.connection)).count x + [c].count x ≤ p.idleConnections.count x) :
      Acquired p w (.ok c) (({ p.takePermit with idle := rest }.noteDestroyed dead).lend c) w
  | opened (running : p.closed = false) (left : p.permits ≠ some 0)
      (outcome : w.dial.1 = .ok w.streams.length) :
      Acquired p w (.ok w.streams.length)
        (p.takePermit.clearIdle.2.finish (.ok w.streams.length)).2 w.dial.2
  | failed {e : TransportError} (running : p.closed = false) (left : p.permits ≠ some 0)
      (answered : w.dials.answer 0 = .error e) (outcome : w.dial.1 = .error e) :
      Acquired p w (.error e) (p.takePermit.clearIdle.2.finish (.error e)).2 w.dial.2

/-- **A request ends in one of five ways.** -/
theorem acquired_acquire (p : Pool) (isAlive : Nat → Bool) (w : Wire) :
    Acquired p w (p.acquire isAlive Wire.dial w).1 (p.acquire isAlive Wire.dial w).2.1
      (p.acquire isAlive Wire.dial w).2.2 := by
  unfold acquire request
  by_cases shut : p.closed = true
  · rw [if_pos shut]
    exact .closed shut
  have running : p.closed = false := Bool.eq_false_iff.2 shut
  rw [if_neg shut]
  by_cases used : p.permits = some 0
  · have refused : (!p.hasPermit) = true := by simp [hasPermit, used]
    rw [if_pos refused]
    exact .exhausted running used
  have granted : ¬ (!p.hasPermit) = true := by simp [hasPermit, used]
  rw [if_neg granted]
  obtain ⟨c, rest, dead, taken, lengths, counts⟩ | taken := p.takePermit.takeIdle_cases isAlive
  · simp only [taken]
    exact .reused running used lengths counts
  · simp only [taken]
    obtain ⟨-, outcome, -⟩ | ⟨e, answered, outcome, -⟩ := w.dial_cases
    · simp only [outcome]
      exact .opened running used outcome
    · simp only [outcome]
      exact .failed running used answered outcome

/-- A permit that was taken and comes back was never away. -/
theorem permits_back {permits : Option Nat} (left : permits ≠ some 0) :
    (permits.map (· - 1)).map (· + 1) = permits := by
  cases permits with
  | none => rfl
  | some free =>
    have some_left : free ≠ 0 := fun none_left => left (none_left ▸ rfl)
    show some (free - 1 + 1) = some free
    rw [Nat.sub_add_cancel (Nat.pos_of_ne_zero some_left)]

/-- A request of an open pool is refused for want of connections exactly if it has no permit. -/
theorem Acquired.exhausted_iff {result : Except TransportError Nat} {q : Pool} {w' : Wire}
    (acquired : Acquired p w result q w') (running : p.closed = false)
    (outside : w.FailsOutside) :
    result = .error (.poolExhausted p.settings.maxWait) ↔ p.permits = some 0 := by
  cases acquired with
  | closed shut =>
    rw [running] at shut
    cases shut
  | exhausted _ used => simp [used]
  | reused _ left _ _ => simp [left]
  | opened _ left _ => simp [left]
  | @failed e _ left answered _ =>
    have plain := outside 0 e answered
    refine iff_of_false (fun same => ?_) left
    cases same
    cases plain

/-- A request that fails takes no permit. -/
theorem Acquired.permits_of_error {e : TransportError} {q : Pool} {w' : Wire}
    (acquired : Acquired p w (.error e) q w') : q.permits = p.permits ∧ q.lent = p.lent := by
  cases acquired with
  | closed _ => exact ⟨rfl, rfl⟩
  | exhausted _ _ => exact ⟨rfl, rfl⟩
  | failed _ left _ _ => exact ⟨permits_back left, rfl⟩

/-- A request that succeeds lends one connection more. -/
theorem Acquired.lent_of_ok {c : Nat} {q : Pool} {w' : Wire}
    (acquired : Acquired p w (.ok c) q w') : q.lent = p.lent ++ [c] := by
  cases acquired <;> rfl

/-! ## 5. What no operation changes -/

theorem refillUpTo_keeps (now : Time.Duration) (n : Nat) (p : Pool) (w : Wire) :
    (refillUpTo Wire.dial now n p w).2.1.settings = p.settings ∧
      (refillUpTo Wire.dial now n p w).2.1.closed = p.closed := by
  induction n generalizing p w with
  | zero => exact ⟨rfl, rfl⟩
  | succ n ih =>
    unfold refillUpTo
    split
    · obtain ⟨outcome, w'⟩ := w.dial
      cases outcome with
      | ok c => exact ih (p.addIdle now c) w'
      | error e => exact ⟨rfl, rfl⟩
    · exact ⟨rfl, rfl⟩

theorem Acquired.keeps {result : Except TransportError Nat} {q : Pool} {w' : Wire}
    (acquired : Acquired p w result q w') : q.settings = p.settings ∧ q.closed = p.closed := by
  cases acquired <;> exact ⟨rfl, rfl⟩

/-- The settings stay, and only closing closes. -/
theorem perform_keeps (p : Pool) (w : Wire) (op : Operation) :
    (p.perform w op).1.settings = p.settings ∧
      ((p.perform w op).1.closed = true ↔ op = .close ∨ p.closed = true) := by
  cases op with
  | acquire isAlive =>
    obtain ⟨settings, closed⟩ := (p.acquired_acquire isAlive w).keeps
    exact ⟨settings, by simp [perform, closed]⟩
  | release isAlive now c =>
    simp only [perform, release]
    split
    · split <;> exact ⟨rfl, by simp [noteDestroyed, settle, givePermit]⟩
    · exact ⟨rfl, by simp⟩
  | invalidate c =>
    simp only [perform]
    split
    · exact ⟨rfl, by simp [invalidate, noteDestroyed, settle, givePermit]⟩
    · exact ⟨rfl, by simp⟩
  | sweep isAlive now => exact ⟨rfl, by simp [perform, sweep, noteDestroyed]⟩
  | refill now =>
    obtain ⟨settings, closed⟩ := refillUpTo_keeps now p.settings.minIdle p w
    exact ⟨settings, by simp [perform, refill, closed]⟩
  | clearIdle => exact ⟨rfl, by simp [perform, clearIdle, noteDestroyed]⟩
  | close =>
    simp only [perform, close]
    split
    · exact ⟨rfl, by simp [*]⟩
    · exact ⟨rfl, by simp⟩

theorem performAll_keeps (p : Pool) (w : Wire) (ops : List Operation) :
    (p.performAll w ops).1.settings = p.settings ∧
      ((p.performAll w ops).1.closed = true ↔ .close ∈ ops ∨ p.closed = true) := by
  induction ops generalizing p w with
  | nil => exact ⟨rfl, by simp [performAll]⟩
  | cons op rest ih =>
    obtain ⟨settings, closed⟩ := p.perform_keeps w op
    obtain ⟨settings', closed'⟩ := ih (p.perform w op).1 (p.perform w op).2
    refine ⟨settings'.trans settings, ?_⟩
    show ((p.perform w op).1.performAll (p.perform w op).2 rest).1.closed = true ↔ _
    rw [closed', closed, List.mem_cons, eq_comm (a := op)]
    tauto

theorem failsOutside_refillUpTo (now : Time.Duration) (n : Nat) (p : Pool)
    (outside : w.FailsOutside) : (refillUpTo Wire.dial now n p w).2.2.FailsOutside := by
  induction n generalizing p w with
  | zero => exact outside
  | succ n ih =>
    unfold refillUpTo
    split
    · have later := outside.dial
      rw [show w.dial = (w.dial.1, w.dial.2) from rfl]
      cases w.dial.1 with
      | ok c => exact ih (p.addIdle now c) later
      | error e => exact later
    · exact outside

theorem Acquired.failsOutside {result : Except TransportError Nat} {q : Pool} {w' : Wire}
    (acquired : Acquired p w result q w') (outside : w.FailsOutside) : w'.FailsOutside := by
  cases acquired with
  | closed _ | exhausted _ _ | reused _ _ _ _ => exact outside
  | opened _ _ _ | failed _ _ _ _ => exact outside.dial

theorem failsOutside_performAll (p : Pool) (outside : w.FailsOutside) (ops : List Operation) :
    (p.performAll w ops).2.FailsOutside := by
  induction ops generalizing p w with
  | nil => exact outside
  | cons op rest ih =>
    refine ih (p.perform w op).1 ?_
    cases op with
    | acquire isAlive => exact (p.acquired_acquire isAlive w).failsOutside outside
    | refill now => exact failsOutside_refillUpTo now p.settings.minIdle p outside
    | release _ _ _ | invalidate _ | sweep _ _ | clearIdle | close => exact outside

end Pool

end Syslog
