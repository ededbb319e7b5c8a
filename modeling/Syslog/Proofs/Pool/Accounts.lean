import Mathlib.Data.List.Nodup
import Syslog.Proofs.Pool.Operations

/-!
# The accounts of a pool

Whatever the probes and the dials answer, the counts of a pool, its permits and its two lists of
connections stay in step.

* `copies`: how many times the pool has a connection;
* `Balanced`: the accounts are in order; `balanced_perform`: every operation leaves them so;
* `performAll_accounts`: the accounts after any run, and what can be done then.
-/

namespace Syslog.Pool

variable {p : Pool} {w : Wire}

/-! ## 1. Accounts -/

/-- How many times the pool has a connection, idle or lent. -/
def copies (p : Pool) (c : Nat) : Nat := p.idleConnections.count c + p.lent.count c

/-- One more idle connection. -/
theorem copies_keep (p : Pool) (e : Idle) (x : Nat) :
    copies { p with idle := p.idle ++ [e] } x = p.copies x + [e.connection].count x := by
  show ((p.idle ++ [e]).map (·.connection)).count x + p.lent.count x =
    (p.idle.map (·.connection)).count x + p.lent.count x + [e.connection].count x
  rw [List.map_append, List.count_append, List.map_singleton]
  omega

/-- **The accounts of a pool are in order**: what was opened and not closed is idle or lent, permits
are left for what is not lent, nothing is had twice or before it was opened, and a closed pool keeps
nothing. -/
structure Balanced (p : Pool) (w : Wire) : Prop where
  counted : p.counts.created = p.counts.destroyed + (p.idle.length + p.lent.length)
  unbounded : p.permits = none ↔ p.settings.maxActive = 0
  permits : ∀ free, p.permits = some free → free + p.lent.length = p.settings.maxActive
  within : 0 < p.settings.maxActive → p.idle.length + p.lent.length ≤ p.settings.maxActive
  once : ∀ c, p.copies c ≤ if c < w.streams.length then 1 else 0
  final : p.closed = true → p.idle = []

/-- A new pool has opened nothing. -/
theorem balanced_new (name : String) (settings : PoolSettings) (w : Wire) :
    Balanced { name, settings } w where
  counted := rfl
  unbounded := by
    show (if settings.maxActive > 0 then some settings.maxActive else none) = none ↔ _
    split <;> simp <;> omega
  permits free left := by
    have given : (if settings.maxActive > 0 then some settings.maxActive else none) = some free :=
      left
    split at given
    · cases given
      rfl
    · cases given
  within _ := Nat.zero_le _
  once _ := Nat.zero_le _
  final _ := rfl

/-! ## 2. Every operation keeps the accounts in order -/

/-- Idle connections that are closed are counted. -/
theorem Balanced.shrink (h : Balanced p w) {rest : List Idle} {dead : Nat}
    (lengths : rest.length + dead = p.idle.length)
    (counts : ∀ c, (rest.map (·.connection)).count c ≤ p.idleConnections.count c) :
    Balanced ({ p with idle := rest }.noteDestroyed dead) w where
  counted := by
    have before := h.counted
    show p.counts.created = p.counts.destroyed + dead + (rest.length + p.lent.length)
    omega
  unbounded := h.unbounded
  permits := h.permits
  within bound := by
    have before := h.within bound
    show rest.length + p.lent.length ≤ p.settings.maxActive
    omega
  once c := by
    refine Nat.le_trans ?_ (h.once c)
    exact Nat.add_le_add_right (counts c) (p.lent.count c)
  final shut := by
    have nothing : p.idle.length = 0 := by rw [h.final shut, List.length_nil]
    exact List.length_eq_zero_iff.1 (by omega : rest.length = 0)

theorem Balanced.clearIdle (h : Balanced p w) : Balanced p.clearIdle.2 w :=
  h.shrink (Nat.zero_add _) fun _ => Nat.zero_le _

theorem Balanced.close (h : Balanced p w) : Balanced p.close w := by
  unfold Pool.close
  split
  · exact h
  · have cleared := h.clearIdle
    exact { cleared with final := fun _ => rfl }

theorem Balanced.sweep (h : Balanced p w) (isAlive : Nat → Bool) (now : Time.Duration) :
    Balanced (p.sweep isAlive now).2 w :=
  h.shrink (p.length_sweep isAlive now) (p.count_sweep_le isAlive now)

/-- The accounts while a connection that was lent is on its way back. -/
theorem Balanced.settle (h : Balanced p w) {c : Nat} (lent : c ∈ p.lent) :
    (p.settle c).lent.length + 1 = p.lent.length ∧
      (∀ free, (p.settle c).permits = some free →
        free + (p.settle c).lent.length = p.settings.maxActive) ∧
      ((p.settle c).permits = none ↔ p.settings.maxActive = 0) ∧
      ∀ x, (p.settle c).copies x + [c].count x = p.copies x := by
  have one_less : (p.lent.erase c).length = p.lent.length - 1 := List.length_erase_of_mem lent
  have some_lent : 0 < p.lent.length := List.length_pos_of_mem lent
  have length : (p.settle c).lent.length + 1 = p.lent.length := by
    show (p.lent.erase c).length + 1 = p.lent.length
    omega
  refine ⟨length, fun free left => ?_, ?_, fun x => ?_⟩
  · obtain ⟨before, were, rfl⟩ := Option.map_eq_some_iff.1 left
    have balance := h.permits before were
    omega
  · rw [← h.unbounded]
    exact Option.map_eq_none_iff
  · have held : 0 < p.lent.count c := List.count_pos_iff.2 lent
    show p.idleConnections.count x + (p.lent.erase c).count x + [c].count x =
      p.idleConnections.count x + p.lent.count x
    rw [List.count_erase, List.count_singleton]
    by_cases same : (c == x) = true
    · have equal : c = x := eq_of_beq same
      subst equal
      simp only [same, if_true]
      omega
    · simp [same]

theorem Balanced.invalidate (h : Balanced p w) {c : Nat} (lent : c ∈ p.lent) :
    Balanced (p.invalidate c) w := by
  obtain ⟨length, permits, unbounded, copies⟩ := h.settle lent
  refine ⟨?_, unbounded, permits, fun bound => ?_, fun x => ?_, h.final⟩
  · have before := h.counted
    show p.counts.created = p.counts.destroyed + 1 + (p.idle.length + (p.settle c).lent.length)
    omega
  · have before := h.within bound
    show p.idle.length + (p.settle c).lent.length ≤ p.settings.maxActive
    omega
  · have before := h.once x
    have fewer := copies x
    show (p.settle c).copies x ≤ _
    omega

theorem Balanced.release (h : Balanced p w) (isAlive : Nat → Bool) (now : Time.Duration) {c : Nat}
    (lent : c ∈ p.lent) : Balanced (p.release isAlive now c) w := by
  obtain ⟨length, permits, unbounded, copies⟩ := h.settle lent
  simp only [Pool.release]
  split
  · exact h.invalidate lent
  · rename_i stays
    have running : p.closed = false := by
      refine Bool.eq_false_iff.2 fun shut => stays ?_
      show (p.closed || _) = true
      rw [shut, Bool.true_or]
    refine ⟨?_, unbounded, permits, fun bound => ?_, fun x => ?_, fun shut => ?_⟩
    · have before := h.counted
      show p.counts.created =
        p.counts.destroyed + ((p.idle ++ [(⟨c, now⟩ : Idle)]).length + (p.settle c).lent.length)
      rw [List.length_append, List.length_singleton]
      omega
    · have before := h.within bound
      show (p.idle ++ [(⟨c, now⟩ : Idle)]).length + (p.settle c).lent.length ≤ p.settings.maxActive
      rw [List.length_append, List.length_singleton]
      omega
    · have before := h.once x
      have fewer := copies x
      have back : Pool.copies { p.settle c with idle := p.idle ++ [⟨c, now⟩] } x =
          (p.settle c).copies x + [c].count x := copies_keep (p.settle c) ⟨c, now⟩ x
      show Pool.copies { p.settle c with idle := p.idle ++ [⟨c, now⟩] } x ≤ _
      omega
    · have open_still : p.closed = true := shut
      rw [running] at open_still
      cases open_still

/-- With a permit taken there is room for one connection more. -/
theorem Balanced.takePermit (h : Balanced p w) (left : p.permits ≠ some 0) :
    (p.takePermit.permits = none ↔ p.settings.maxActive = 0) ∧
      (∀ free, p.takePermit.permits = some free →
        free + (p.lent.length + 1) = p.settings.maxActive) ∧
      (0 < p.settings.maxActive → p.lent.length + 1 ≤ p.settings.maxActive) := by
  refine ⟨?_, fun free taken => ?_, fun bound => ?_⟩
  · rw [← h.unbounded]
    exact Option.map_eq_none_iff
  · obtain ⟨before, were, rfl⟩ := Option.map_eq_some_iff.1 taken
    have balance := h.permits before were
    have some_left : before ≠ 0 := fun none_left => left (none_left ▸ were)
    omega
  · cases were : p.permits with
    | none =>
      have no_bound := h.unbounded.1 were
      omega
    | some before =>
      have balance := h.permits before were
      have some_left : before ≠ 0 := fun none_left => left (none_left ▸ were)
      omega

/-- A connection that was opened is new. -/
theorem Balanced.fresh (h : Balanced p w) : p.copies w.streams.length = 0 := by
  have before := h.once w.streams.length
  rw [if_neg (Nat.lt_irrefl _)] at before
  exact Nat.le_zero.1 before

/-- Another connection has been opened, and the pool has it once. -/
theorem Balanced.once_opened (h : Balanced p w) {q : Pool} {w' : Wire}
    (opened : w'.streams.length = w.streams.length + 1)
    (copies : ∀ x, q.copies x ≤ p.copies x + [w.streams.length].count x) (x : Nat) :
    q.copies x ≤ if x < w'.streams.length then 1 else 0 := by
  have before := h.once x
  have now := copies x
  rw [opened]
  rw [List.count_singleton] at now
  by_cases new : x = w.streams.length
  · subst new
    have fresh := h.fresh
    rw [if_pos (beq_self_eq_true _)] at now
    rw [if_pos (Nat.lt_succ_self _)]
    omega
  · have other : (w.streams.length == x) = false := beq_false_of_ne (Ne.symm new)
    simp only [other, Bool.false_eq_true, if_false] at now
    by_cases old : x < w.streams.length
    · rw [if_pos old] at before
      rw [if_pos (Nat.lt_succ_of_lt old)]
      omega
    · rw [if_neg old] at before
      omega

theorem Balanced.acquired (h : Balanced p w) {result : Except TransportError Nat} {q : Pool}
    {w' : Wire} (acquired : Acquired p w result q w') : Balanced q w' := by
  cases acquired with
  | closed shut => exact h
  | exhausted running used => exact { h with }
  | @reused c dead rest running left lengths counts =>
    obtain ⟨unbounded, permits, room⟩ := h.takePermit left
    refine ⟨?_, unbounded, fun free taken => ?_, fun bound => ?_, fun x => ?_, fun shut => ?_⟩
    · have before := h.counted
      show p.counts.created =
        p.counts.destroyed + dead + (rest.length + (p.lent ++ [c]).length)
      rw [List.length_append, List.length_singleton]
      omega
    · show free + (p.lent ++ [c]).length = p.settings.maxActive
      rw [List.length_append, List.length_singleton]
      exact permits free taken
    · have before := h.within bound
      show rest.length + (p.lent ++ [c]).length ≤ p.settings.maxActive
      rw [List.length_append, List.length_singleton]
      omega
    · refine Nat.le_trans ?_ (h.once x)
      have fewer := counts x
      show (rest.map (·.connection)).count x + (p.lent ++ [c]).count x ≤
        p.idleConnections.count x + p.lent.count x
      rw [List.count_append]
      omega
    · have open_still : p.closed = true := shut
      rw [running] at open_still
      cases open_still
  | opened running left outcome =>
    obtain ⟨unbounded, permits, room⟩ := h.takePermit left
    obtain ⟨-, -, opened⟩ | ⟨e, -, failed, -⟩ := w.dial_cases
    · refine ⟨?_, unbounded, fun free taken => ?_, fun bound => ?_, ?_, fun _ => rfl⟩
      · have before := h.counted
        show p.counts.created + 1 =
          p.counts.destroyed + p.idle.length + (0 + (p.lent ++ [w.streams.length]).length)
        rw [List.length_append, List.length_singleton]
        omega
      · show free + (p.lent ++ [w.streams.length]).length = p.settings.maxActive
        rw [List.length_append, List.length_singleton]
        exact permits free taken
      · show 0 + (p.lent ++ [w.streams.length]).length ≤ p.settings.maxActive
        rw [List.length_append, List.length_singleton, Nat.zero_add]
        exact room bound
      · refine h.once_opened opened fun x => ?_
        show 0 + (p.lent ++ [w.streams.length]).count x ≤ _
        rw [List.count_append, copies]
        omega
    · rw [failed] at outcome
      cases outcome
  | @failed e running left answered outcome =>
    obtain ⟨-, opened, -⟩ | ⟨-, -, -, streams⟩ := w.dial_cases
    · rw [opened] at outcome
      cases outcome
    have cleared := h.clearIdle
    have same : (p.takePermit.clearIdle.2.finish (.error e)).2 = p.clearIdle.2 := by
      show { p.clearIdle.2 with permits := (p.permits.map (· - 1)).map (· + 1) } = p.clearIdle.2
      rw [permits_back left]
      rfl
    rw [same]
    exact { cleared with once := fun x => by rw [streams]; exact cleared.once x }

theorem Balanced.addIdle (h : Balanced p w) (wanted : p.wantsIdle = true) {w' : Wire}
    (opened : w'.streams.length = w.streams.length + 1) (now : Time.Duration) :
    Balanced (p.addIdle now w.streams.length) w' := by
  obtain ⟨running, -, room⟩ := wantsIdle_eq_true_iff.1 wanted
  refine ⟨?_, h.unbounded, h.permits, fun bound => ?_, ?_, fun shut => ?_⟩
  · have before := h.counted
    show p.counts.created + 1 =
      p.counts.destroyed + ((p.idle ++ [(⟨w.streams.length, now⟩ : Idle)]).length + p.lent.length)
    rw [List.length_append, List.length_singleton]
    omega
  · show (p.idle ++ [(⟨w.streams.length, now⟩ : Idle)]).length + p.lent.length ≤
      p.settings.maxActive
    rw [List.length_append, List.length_singleton]
    cases were : p.permits with
    | none =>
      have no_bound : p.settings.maxActive = 0 := h.unbounded.1 were
      exact absurd no_bound (Nat.ne_of_gt bound)
    | some free =>
      have balance := h.permits free were
      have fits := room free were
      omega
  · exact h.once_opened opened fun x => Nat.le_of_eq (copies_keep p ⟨w.streams.length, now⟩ x)
  · have open_still : p.closed = true := shut
    rw [running] at open_still
    cases open_still

theorem Balanced.refillUpTo (h : Balanced p w) (now : Time.Duration) (n : Nat) :
    Balanced (refillUpTo Wire.dial now n p w).2.1 (refillUpTo Wire.dial now n p w).2.2 := by
  induction n generalizing p w with
  | zero => exact h
  | succ n ih =>
    unfold Pool.refillUpTo
    by_cases wanted : p.wantsIdle = true
    · rw [if_pos wanted]
      obtain ⟨-, outcome, opened⟩ | ⟨e, -, outcome, streams⟩ := w.dial_cases
      · rw [show w.dial = (.ok w.streams.length, w.dial.2) from Prod.ext outcome rfl]
        exact ih (h.addIdle wanted opened now)
      · rw [show w.dial = (.error e, w.dial.2) from Prod.ext outcome rfl]
        exact { h with once := fun x => by rw [streams]; exact h.once x }
    · rw [if_neg wanted]
      exact h

/-- **Every operation keeps the accounts in order.** -/
theorem balanced_perform (h : Balanced p w) (op : Operation) :
    Balanced (p.perform w op).1 (p.perform w op).2 := by
  cases op with
  | acquire isAlive => exact h.acquired (p.acquired_acquire isAlive w)
  | release isAlive now c =>
    by_cases lent : c ∈ p.lent
    · simpa only [perform, if_pos lent] using h.release isAlive now lent
    · simpa only [perform, if_neg lent] using h
  | invalidate c =>
    by_cases lent : c ∈ p.lent
    · simpa only [perform, if_pos lent] using h.invalidate lent
    · simpa only [perform, if_neg lent] using h
  | sweep isAlive now => exact h.sweep isAlive now
  | refill now => exact h.refillUpTo now p.settings.minIdle
  | clearIdle => exact h.clearIdle
  | close => exact h.close

theorem balanced_performAll (h : Balanced p w) (ops : List Operation) :
    Balanced (p.performAll w ops).1 (p.performAll w ops).2 := by
  induction ops generalizing p w with
  | nil => exact h
  | cons op rest ih => exact ih (balanced_perform h op)

/-! ## 3. The accounts after a run -/

/-- No connection is idle and lent, or either of them twice. -/
theorem Balanced.nodup (h : Balanced p w) : (p.idleConnections ++ p.lent).Nodup := by
  refine List.nodup_iff_count_le_one.2 fun c => ?_
  have few := h.once c
  rw [List.count_append]
  show p.copies c ≤ 1
  split at few <;> omega

/-- The permits that are out are those of lent connections. -/
theorem Balanced.active? (h : Balanced p w) (bound : 0 < p.settings.maxActive) :
    p.active? = some p.lent.length := by
  unfold Pool.active?
  cases were : p.permits with
  | none =>
    have no_bound := h.unbounded.1 were
    omega
  | some free =>
    have balance := h.permits free were
    show some (p.settings.maxActive - free) = some p.lent.length
    rw [← balance, Nat.add_sub_cancel_left]

/-- No permit is left exactly if as many connections are lent as may be. -/
theorem Balanced.used_iff (h : Balanced p w) (bound : 0 < p.settings.maxActive) :
    p.permits = some 0 ↔ p.lent.length = p.settings.maxActive := by
  cases were : p.permits with
  | none =>
    have no_bound := h.unbounded.1 were
    omega
  | some free =>
    have balance := h.permits free were
    rw [Option.some.injEq]
    omega

/-- **The accounts of a pool, after any run.** What was opened and not closed is idle or lent, and
nothing is had twice. The permits of a bounded pool that are out are those of lent connections, and
it never has more connections than it may. Asked for a connection while it is open, it refuses for
want of one exactly if as many are lent as may be; a request that fails takes no permit, and one
that succeeds lends a connection that nobody had. A pool that was closed has nothing idle, refuses
every request, and closes what comes back. -/
theorem performAll_accounts (name : String) (settings : PoolSettings) {start : Wire}
    (outside : start.FailsOutside) (ops : List Operation) :
    let p := (performAll { name, settings } start ops).1
    let w := (performAll { name, settings } start ops).2
    p.counts.created = p.counts.destroyed + (p.idle.length + p.lent.length) ∧
      (0 < settings.maxActive →
        p.permits = some (settings.maxActive - p.lent.length) ∧ p.active? = some p.lent.length ∧
          p.idle.length + p.lent.length ≤ settings.maxActive) ∧
      (p.idleConnections ++ p.lent).Nodup ∧
      (p.closed = true ↔ .close ∈ ops) ∧
      (∀ isAlive result after w', p.acquire isAlive Wire.dial w = (result, after, w') →
        (p.closed = false → 0 < settings.maxActive →
          (result = .error (.poolExhausted settings.maxWait) ↔
            p.lent.length = settings.maxActive)) ∧
        (∀ e, result = .error e → after.permits = p.permits ∧ after.lent = p.lent) ∧
        ∀ c, result = .ok c →
          c ∉ p.lent ∧ c ∉ after.idleConnections ∧ after.lent = p.lent ++ [c]) ∧
      (p.closed = true →
        p.idle = [] ∧
        (∀ isAlive, p.acquire isAlive Wire.dial w = (.error .poolClosed, p, w)) ∧
        ∀ c ∈ p.lent, ∀ isAlive now,
          (p.release isAlive now c).idle = [] ∧
          (p.release isAlive now c).lent = p.lent.erase c ∧
          (p.release isAlive now c).counts.destroyed = p.counts.destroyed + 1) := by
  intro p w
  have balanced : Balanced p w := balanced_performAll (balanced_new name settings start) ops
  obtain ⟨same_settings, closed_iff⟩ :
      p.settings = settings ∧ (p.closed = true ↔ .close ∈ ops ∨ false = true) :=
    performAll_keeps _ start ops
  have fails : w.FailsOutside := failsOutside_performAll _ outside ops
  refine ⟨balanced.counted, fun bound => ?_, balanced.nodup, by simpa using closed_iff,
    fun isAlive result after w' acquires => ?_, fun shut => ⟨balanced.final shut, ?_, ?_⟩⟩
  · rw [← same_settings] at bound ⊢
    refine ⟨?_, balanced.active? bound, balanced.within bound⟩
    cases left : p.permits with
    | none =>
      have no_bound := balanced.unbounded.1 left
      omega
    | some free =>
      have balance := balanced.permits free left
      rw [← balance, Nat.add_sub_cancel]
  · have acquired := p.acquired_acquire isAlive w
    rw [acquires] at acquired
    refine ⟨fun running bound => ?_, fun e failed => ?_, fun c lent => ?_⟩
    · rw [← same_settings] at bound ⊢
      exact (acquired.exhausted_iff running fails).trans (balanced.used_iff bound)
    · subst failed
      exact acquired.permits_of_error
    · subst lent
      have last := acquired.lent_of_ok
      have once := (balanced.acquired acquired).nodup
      rw [last] at once
      obtain ⟨-, lent_once, apart⟩ := List.nodup_append.1 once
      obtain ⟨-, -, differ⟩ := List.nodup_append.1 lent_once
      have new : c ∈ [c] := List.mem_singleton_self c
      exact ⟨fun twice => differ c twice c new rfl,
        fun idle => apart c idle c (List.mem_append_right _ new) rfl, last⟩
  · intro isAlive
    unfold acquire request
    rw [if_pos shut]
  · intro c _ isAlive now
    have shut_still : (p.settle c).closed = true := shut
    simp only [release, shut_still, Bool.true_or, if_true]
    exact ⟨balanced.final shut, rfl, rfl⟩

/-- Of three requests the second fails; the two that succeed leave nothing for a fourth, and after
that all is closed, what is lent when it comes back. -/
theorem performAll_accounts_of_failed_dial :
    let start : Wire :=
      { dials := { upcoming := [.ok (), .error (.connectionFailed "peer" "refused")],
                   afterwards := .ok () } }
    let ask : Operation := .acquire fun _ => true
    let run := performAll { name := "p", settings := { maxActive := 2 } } start
    start.FailsOutside ∧ (run [ask, ask, ask]).1.lent = [0, 1] ∧
      ((run [ask, ask, ask]).1.acquire (fun _ => true) Wire.dial (run [ask, ask, ask]).2).1 =
        .error (.poolExhausted (.ofSeconds 5)) ∧
      (run [ask, ask, ask, .close]).1.permits = some 0 ∧
      ((run [ask, ask, ask, .close]).1.release (fun _ => true) .zero 1).counts.destroyed = 1 := by
  intro start ask run
  have outside : start.FailsOutside := by
    intro k e failed
    match k with
    | 0 => cases failed
    | 1 =>
      cases failed
      rfl
    | _ + 2 => cases failed
  have asked := performAll_accounts "p" { maxActive := 2 } outside [ask, ask, ask]
  have closed := performAll_accounts "p" { maxActive := 2 } outside [ask, ask, ask, .close]
  obtain ⟨refused, -, -⟩ := asked.2.2.2.2.1 (fun _ => true) _ _ _ rfl
  obtain ⟨-, -, destroyed⟩ := (closed.2.2.2.2.2 rfl).2.2 1 (by decide) (fun _ => true) .zero
  exact ⟨outside, rfl, (refused rfl (by decide)).2 rfl, (closed.2.1 (by decide)).1, destroyed⟩

end Syslog.Pool
