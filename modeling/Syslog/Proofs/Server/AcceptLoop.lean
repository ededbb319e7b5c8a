import Syslog.Server.AcceptLoop

/-!
# Permits and the accept loop

The loop of a server that admits a limited number of sessions, next to the sessions that it serves.

* `AcceptLoop.ownPermits`: the permits that the loop itself holds, one at most;
* `AcceptLoop.Sound`: every permit that is out is held by a session or by the loop, the loop waits
  only while all are out, and it is where its policy can bring it;
* `turn_cases`, `turned_turn`: how a turn starts, and that it does so with a refusal only while all
  permits are out;
* `Sound.accept?_cases`, `Sound.fail?`, `Sound.finished`, `Sound.pass`, `Sound.stop`: whatever
  happens, the loop stays sound;
* `refusal_of_finished_each`, `stopped_finished_each`: what permits that come back do not change.
-/

namespace Syslog

/-! ## 1. Taking and giving -/

namespace Admission

/-- Under a limit a permit can be taken exactly if not all of them are out. -/
theorem take?_cases {a : Admission} (bounded : 0 < a.limit) :
    (a.held < a.limit ∧ a.take? = some { a with held := a.held + 1 }) ∨
      (a.limit ≤ a.held ∧ a.take? = none) := by
  have limited : a.isBounded = true := decide_eq_true bounded
  unfold take?
  by_cases full : a.limit ≤ a.held
  · exact .inr ⟨full, by simp [limited, full]⟩
  · have room : a.held < a.limit := Nat.lt_of_not_le full
    exact .inl ⟨room, by simp [limited, room]⟩

/-- Under a limit the free permits and those that are out make up the limit. -/
theorem available?_of_bounded {a : Admission} (bounded : 0 < a.limit) (within : a.held ≤ a.limit) :
    ∃ free, a.available? = some free ∧ free + a.held = a.limit := by
  have limited : a.isBounded = true := decide_eq_true bounded
  refine ⟨a.limit - a.held, ?_, Nat.sub_add_cancel within⟩
  rw [available?, if_pos limited]

end Admission

/-! ## 2. Where the loop can be -/

/-- The policy under which the loop can have this in hand. -/
def InHand.policy : InHand → OverflowPolicy
  | nothing => .reject
  | permit | refusal => .block

namespace AcceptLoop

/-- How many permits the loop itself holds. -/
def ownPermits (l : AcceptLoop) : Nat := if l.stage.inHand? = some .permit then 1 else 0

theorem ownPermits_le_one (l : AcceptLoop) : l.ownPermits ≤ 1 := by
  unfold ownPermits
  split <;> decide

/-- The loop of a server with a limit, while there are so many sessions. -/
structure Sound (limit : Nat) (policy : OverflowPolicy) (sessions : Nat) (l : AcceptLoop) :
    Prop where
  limit_eq : l.admission.limit = limit
  policy_eq : l.admission.policy = policy
  /-- Every permit that is out is held by a session or by the loop. -/
  held : l.admission.held = sessions + l.ownPermits
  within : l.admission.held ≤ limit
  /-- The loop waits for a permit only while all of them are out. -/
  full : ∀ left, l.stage = .waiting left → policy = .block ∧ l.admission.held = limit
  suits : ∀ inHand, l.stage.inHand? = some inHand → inHand.policy = policy

/-- The loop at the start of a turn. A refusal it then has only if all permits are out. -/
structure Turned (limit : Nat) (policy : OverflowPolicy) (sessions : Nat) (l : AcceptLoop) : Prop
    extends Sound limit policy sessions l where
  refused : l.stage = .accepting .refusal → sessions = limit

variable {limit sessions : Nat} {policy : OverflowPolicy} {l l' : AcceptLoop}

/-- A loop that has something in hand does not wait. -/
theorem Sound.of_inHand {inHand : InHand} (has : l.stage.inHand? = some inHand)
    (limit_eq : l.admission.limit = limit) (policy_eq : l.admission.policy = policy)
    (held : l.admission.held = sessions + l.ownPermits) (within : l.admission.held ≤ limit)
    (suits : inHand.policy = policy) : Sound limit policy sessions l where
  limit_eq := limit_eq
  policy_eq := policy_eq
  held := held
  within := within
  full left waits := by
    rw [waits] at has
    cases has
  suits other same := by
    rw [has] at same
    cases same
    exact suits

/-! ## 3. Turns -/

/-- How a turn starts under a limit. -/
theorem turn_cases {a : Admission} (bounded : 0 < a.limit) :
    (a.policy = .reject ∧ turn a = ⟨a, .accepting .nothing⟩) ∨
      (a.policy = .block ∧ a.held < a.limit ∧
        turn a = ⟨{ a with held := a.held + 1 }, .accepting .permit⟩) ∨
      (a.policy = .block ∧ a.limit ≤ a.held ∧
        (turn a = ⟨a, .accepting .refusal⟩ ∨ turn a = ⟨a, .waiting a.blockTimeout⟩)) := by
  have limited : a.isBounded = true := decide_eq_true bounded
  cases same : a.policy with
  | reject =>
    have accepts : a.waitsBeforeAccept = false := by simp [Admission.waitsBeforeAccept, same]
    exact .inl ⟨rfl, by simp [turn, accepts]⟩
  | block =>
    have waits : a.waitsBeforeAccept = true := by simp [Admission.waitsBeforeAccept, limited, same]
    rcases Admission.take?_cases bounded with ⟨room, taken⟩ | ⟨full, taken⟩
    · exact .inr (.inl ⟨rfl, room, by simp [turn, waits, taken, same]⟩)
    · refine .inr (.inr ⟨rfl, full, ?_⟩)
      by_cases instant : a.blockTimeout.nanoseconds = 0
      · exact .inl (by simp [turn, waits, taken, instant])
      · exact .inr (by simp [turn, waits, taken, instant])

/-- **A turn that starts with one permit out for each session is sound.** -/
theorem turned_turn {a : Admission} (bounded : 0 < limit) (limit_eq : a.limit = limit)
    (policy_eq : a.policy = policy) (held : a.held = sessions) (within : sessions ≤ limit) :
    Turned limit policy sessions (turn a) := by
  subst limit_eq policy_eq held
  rcases turn_cases bounded with ⟨rejects, eq⟩ | ⟨blocks, room, eq⟩ | ⟨blocks, full, eq | eq⟩
  · rw [eq]
    exact ⟨.of_inHand rfl rfl rfl rfl within rejects.symm, fun refusal => nomatch refusal⟩
  · rw [eq]
    exact ⟨.of_inHand rfl rfl rfl rfl room blocks.symm, fun refusal => nomatch refusal⟩
  · have out : a.held = a.limit := Nat.le_antisymm within full
    rw [eq]
    exact ⟨.of_inHand rfl rfl rfl rfl within blocks.symm, fun _ => out⟩
  · have out : a.held = a.limit := Nat.le_antisymm within full
    rw [eq]
    exact ⟨⟨rfl, rfl, rfl, within, fun _ _ => ⟨blocks, out⟩, fun _ has => nomatch has⟩,
      fun refusal => nomatch refusal⟩

/-! ## 4. What happens to the loop -/

/-- Without what the loop itself holds, one permit is out for each session. -/
theorem Sound.release (h : Sound limit policy sessions l) :
    l.release.limit = limit ∧ l.release.policy = policy ∧ l.release.held = sessions ∧
      sessions ≤ limit := by
  have held := h.held
  have within := h.within
  unfold AcceptLoop.release
  unfold ownPermits at held
  by_cases own : l.stage.inHand? = some .permit
  · rw [if_pos own] at held
    rw [if_pos own]
    refine ⟨h.limit_eq, h.policy_eq, ?_, by omega⟩
    show l.admission.held - 1 = sessions
    omega
  · rw [if_neg own] at held
    rw [if_neg own]
    exact ⟨h.limit_eq, h.policy_eq, held, by omega⟩

/-- A turn after the loop has given its own permit back. -/
theorem Sound.turn_release (bounded : 0 < limit) (h : Sound limit policy sessions l) :
    Turned limit policy sessions (turn l.release) := by
  obtain ⟨limit_eq, policy_eq, held, within⟩ := h.release
  exact turned_turn bounded limit_eq policy_eq held within

/-- No loop is at a stage of another policy. -/
theorem Sound.policy_of (h : Sound limit policy sessions l) {inHand : InHand}
    (has : l.stage.inHand? = some inHand) : policy = inHand.policy := (h.suits inHand has).symm

/-- **When a connection is there**: it is admitted with a permit that was free or that the loop
held, or it is rejected, because none is free or because the loop holds a refusal. -/
theorem Sound.accept?_cases (bounded : 0 < limit) (h : Sound limit policy sessions l) :
    l.accept? = none ∨
      (∃ l', l.accept? = some (true, l') ∧ Turned limit policy (sessions + 1) l') ∨
      (∃ l', l.accept? = some (false, l') ∧ Turned limit policy sessions l' ∧
        (l.stage = .accepting .nothing ∧ sessions = limit ∨ l.stage = .accepting .refusal)) := by
  have held := h.held
  have within := h.within
  have bounded' : 0 < l.admission.limit := h.limit_eq ▸ bounded
  unfold ownPermits at held
  unfold accept?
  cases stage : l.stage with
  | waiting left => exact .inl rfl
  | resting left inHand => exact .inl rfl
  | stopped => exact .inl rfl
  | accepting inHand =>
    rw [stage] at held
    cases inHand with
    | nothing =>
      have sessions_eq : l.admission.held = sessions := held
      rcases Admission.take?_cases bounded' with ⟨room, taken⟩ | ⟨full, taken⟩
      · rw [taken]
        rw [h.limit_eq] at room
        exact .inr (.inl ⟨_, rfl, turned_turn bounded h.limit_eq h.policy_eq
          (congrArg (· + 1) sessions_eq) (sessions_eq ▸ room)⟩)
      · rw [taken]
        rw [h.limit_eq] at full
        exact .inr (.inr ⟨_, rfl, turned_turn bounded h.limit_eq h.policy_eq sessions_eq
          (sessions_eq ▸ within), .inl ⟨rfl, by omega⟩⟩)
    | permit =>
      have sessions_eq : l.admission.held = sessions + 1 := held
      exact .inr (.inl ⟨_, rfl, turned_turn bounded h.limit_eq h.policy_eq sessions_eq
        (sessions_eq ▸ within)⟩)
    | refusal =>
      have sessions_eq : l.admission.held = sessions := held
      exact .inr (.inr ⟨_, rfl, turned_turn bounded h.limit_eq h.policy_eq sessions_eq
        (sessions_eq ▸ within), .inr rfl⟩)

theorem Sound.of_admitted (bounded : 0 < limit) (h : Sound limit policy sessions l)
    (answer : l.accept? = some (true, l')) : Turned limit policy (sessions + 1) l' := by
  rcases h.accept?_cases bounded with other | ⟨after, same, turned⟩ | ⟨after, other, -⟩
  · rw [other] at answer
    cases answer
  · rw [same] at answer
    cases answer
    exact turned
  · rw [other] at answer
    cases answer

theorem Sound.of_rejected (bounded : 0 < limit) (h : Sound limit policy sessions l)
    (answer : l.accept? = some (false, l')) : Turned limit policy sessions l' ∧
      (l.stage = .accepting .nothing ∧ sessions = limit ∨ l.stage = .accepting .refusal) := by
  rcases h.accept?_cases bounded with other | ⟨after, other, -⟩ | ⟨after, same, turned, reason⟩
  · rw [other] at answer
    cases answer
  · rw [other] at answer
    cases answer
  · rw [same] at answer
    cases answer
    exact ⟨turned, reason⟩

/-- A loop that has stopped accepts nothing. -/
theorem working_of_accept? {verdict : Bool × AcceptLoop} (accepted : l.accept? = some verdict) :
    l.stage ≠ .stopped := by
  intro stopped
  unfold accept? at accepted
  rw [stopped] at accepted
  cases accepted

/-- Only a loop that is accepting can fail to accept; it then rests with what it has in hand. -/
theorem fail?_cases (failed : l.fail? = some l') :
    ∃ inHand, l.stage = .accepting inHand ∧
      l' = { l with stage := .resting restTime inHand } := by
  unfold fail? at failed
  split at failed
  · rename_i inHand stage
    cases failed
    exact ⟨inHand, stage, rfl⟩
  · cases failed

theorem working_of_fail? (failed : l.fail? = some l') : l.stage ≠ .stopped := by
  obtain ⟨inHand, stage, -⟩ := fail?_cases failed
  rw [stage]
  exact fun same => nomatch same

/-- A loop that could not accept a connection keeps what it has in hand while it rests. -/
theorem Sound.fail? (h : Sound limit policy sessions l) (failed : l.fail? = some l') :
    Sound limit policy sessions l' := by
  obtain ⟨inHand, stage, rfl⟩ := fail?_cases failed
  have has : l.stage.inHand? = some inHand := by
    rw [stage]
    rfl
  have held := h.held
  unfold ownPermits at held
  rw [has] at held
  exact .of_inHand rfl h.limit_eq h.policy_eq held h.within (h.suits inHand has)

/-- A permit that comes back from a session goes to a loop that waits for it. -/
theorem Sound.finished (bounded : 0 < limit) (h : Sound limit policy (sessions + 1) l) :
    Sound limit policy sessions l.finished := by
  have held := h.held
  have within := h.within
  unfold AcceptLoop.finished
  by_cases waits : ∃ left, l.stage = .waiting left
  · obtain ⟨left, stage⟩ := waits
    obtain ⟨blocks, out⟩ := h.full left stage
    unfold ownPermits at held
    rw [stage] at held ⊢
    have all_held : l.admission.held = sessions + 1 := held
    have limit_eq : l.admission.give.limit = limit := h.limit_eq
    have back : l.admission.give.held = sessions := by
      show l.admission.held - 1 = sessions
      rw [all_held, Nat.add_sub_cancel]
    rcases Admission.take?_cases (limit_eq ▸ bounded) with ⟨-, taken⟩ | ⟨full, -⟩
    · have room : l.admission.give.held + 1 ≤ limit := by omega
      simp only [taken]
      exact .of_inHand rfl limit_eq h.policy_eq (congrArg (· + 1) back) room blocks.symm
    · omega
  · have other : ∀ left, l.stage ≠ .waiting left := fun left stage => waits ⟨left, stage⟩
    have kept : Sound limit policy sessions { l with admission := l.admission.give } := by
      refine ⟨h.limit_eq, h.policy_eq, ?_, ?_, fun left stage => absurd stage (other left), h.suits⟩
      · show l.admission.held - 1 = sessions + l.ownPermits
        omega
      · show l.admission.held - 1 ≤ limit
        omega
    split
    · rename_i left stage
      exact absurd stage (other left)
    · exact kept

/-- The permits of several sessions come back. -/
theorem Sound.finished_each (bounded : 0 < limit) {α : Type} (ended : List α)
    (h : Sound limit policy (sessions + ended.length) l) :
    Sound limit policy sessions (ended.foldl (fun loop _ => loop.finished) l) := by
  induction ended generalizing l with
  | nil => exact h
  | cons _ rest ih => exact ih (Sound.finished bounded h)

/-- **Time ends a wait with a refusal, and a rest with a new turn.** A refusal that it brings comes
while all permits are out. -/
theorem Sound.pass (bounded : 0 < limit) (h : Sound limit policy sessions l)
    (time : Time.Duration) : Sound limit policy sessions (l.pass time) ∧
      ((l.pass time).stage = .accepting .refusal →
        l.stage = .accepting .refusal ∨ sessions = limit) := by
  have held := h.held
  unfold ownPermits at held
  unfold AcceptLoop.pass
  cases stage : l.stage with
  | waiting left =>
    obtain ⟨blocks, out⟩ := h.full left stage
    rw [stage] at held
    dsimp only
    by_cases elapsed : left.nanoseconds ≤ time.nanoseconds
    · rw [if_pos elapsed]
      exact ⟨.of_inHand rfl h.limit_eq h.policy_eq held h.within blocks.symm,
        fun _ => .inr (held.symm.trans out)⟩
    · rw [if_neg elapsed]
      exact ⟨⟨h.limit_eq, h.policy_eq, held, h.within, fun _ _ => ⟨blocks, out⟩,
        fun _ has => nomatch has⟩, fun refusal => nomatch refusal⟩
  | resting left inHand =>
    have has : l.stage.inHand? = some inHand := by
      rw [stage]
      rfl
    have suits := h.suits inHand has
    rw [stage] at held
    dsimp only
    by_cases elapsed : left.nanoseconds ≤ time.nanoseconds
    · have turned := h.turn_release bounded
      rw [if_pos elapsed]
      exact ⟨turned.toSound, fun refusal => .inr (turned.refused refusal)⟩
    · rw [if_neg elapsed]
      exact ⟨.of_inHand rfl h.limit_eq h.policy_eq held h.within suits,
        fun refusal => nomatch refusal⟩
  | accepting inHand => exact ⟨h, fun refusal => .inl (stage.symm.trans refusal)⟩
  | stopped => exact ⟨h, fun refusal => nomatch stage.symm.trans refusal⟩

/-- A loop that stops gives back what it holds. -/
theorem Sound.stop (h : Sound limit policy sessions l) : Sound limit policy sessions l.stop := by
  obtain ⟨limit_eq, policy_eq, held, within⟩ := h.release
  exact ⟨limit_eq, policy_eq, held, held ▸ within, fun _ waits => (nomatch waits),
    fun _ has => nomatch has⟩

/-! ## 5. Stages that stay -/

/-- A permit that comes back brings no refusal. -/
theorem refusal_of_finished (refusal : l.finished.stage = .accepting .refusal) :
    l.stage = .accepting .refusal := by
  unfold finished at refusal
  split at refusal
  · rename_i left stage
    cases taken : l.admission.give.take? with
    | none =>
      simp only [taken] at refusal
      exact refusal
    | some a =>
      simp only [taken] at refusal
      cases refusal
  · exact refusal

theorem refusal_of_finished_each {α : Type} (ended : List α)
    (refusal : (ended.foldl (fun loop _ => loop.finished) l).stage = .accepting .refusal) :
    l.stage = .accepting .refusal := by
  induction ended generalizing l with
  | nil => exact refusal
  | cons _ rest ih => exact refusal_of_finished (ih refusal)

theorem stopped_finished_each {α : Type} (ended : List α) (stopped : l.stage = .stopped) :
    (ended.foldl (fun loop _ => loop.finished) l).stage = .stopped := by
  induction ended generalizing l with
  | nil => exact stopped
  | cons _ rest ih =>
    have still : l.finished.stage = .stopped := by
      simp only [finished, stopped]
    exact ih still

end AcceptLoop

end Syslog
