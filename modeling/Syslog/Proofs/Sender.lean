import Mathlib.Data.List.Range
import Syslog.Sender

/-!
# Attempts to write

What becomes of a message depends on what the peer answers to the writes, one after the other.

* `Script.answer`: the answers by number;
* `Settles`: which attempt decides, and what becomes of the message; `Settles.unique`: at most one
  does;
* `attemptAll_eq`: the attempts of a sender end with the one that decides, and this is all that they
  change and do outside;
* `spent`, `writes`, `attemptAll_prepare`: the same for a message that the sender is given.
-/

namespace Syslog

/-! ## 1. Answers by number -/

namespace Script

variable {α : Type}

/-- The answer that comes after `k` others. -/
def answer (s : Script α) (k : Nat) : α := s.upcoming[k]?.getD s.afterwards

theorem next_fst (s : Script α) : s.next.1 = s.answer 0 := by
  obtain ⟨upcoming, afterwards⟩ := s
  cases upcoming <;> rfl

theorem answer_next (s : Script α) (k : Nat) : s.next.2.answer k = s.answer (k + 1) := by
  obtain ⟨upcoming, afterwards⟩ := s
  cases upcoming <;> rfl

end Script

/-- The link after so many writes of a payload. -/
def Link.writes (l : Link) (payload : Bytes) : Nat → Link
  | 0 => l
  | n + 1 => (l.write payload).2.writes payload n

/-- A write takes the next answer. -/
theorem Link.write_eq (l : Link) (payload : Bytes) :
    (l.write payload).1 = l.outcomes.answer 0 ∧
      (l.write payload).2.outcomes = l.outcomes.next.2 := by
  rw [← Script.next_fst, Link.write]
  cases l.outcomes.next with
  | mk outcome outcomes => cases outcome <;> exact ⟨rfl, rfl⟩

/-- After so many writes the answers are those that come later. -/
theorem Link.answer_writes (l : Link) (payload : Bytes) (n k : Nat) :
    (l.writes payload n).outcomes.answer k = l.outcomes.answer (n + k) := by
  induction n generalizing l with
  | zero => rw [Nat.zero_add, Link.writes]
  | succ n ih =>
    rw [Link.writes, ih, (l.write_eq payload).2, Script.answer_next, Nat.add_right_comm]

namespace Sender

/-! ## 2. The attempt that decides -/

/-- The pool has no connection to give. -/
inductive NoConnection : TransportError → Prop
  | exhausted (waited : Time.Duration) : NoConnection (.poolExhausted waited)
  | closed : NoConnection .poolClosed

/-- These are the errors that end the attempts at once. -/
theorem isFinal_iff {e : TransportError} : isFinal e = true ↔ NoConnection e := by
  constructor
  · intro final
    cases e with
    | poolExhausted waited => exact .exhausted waited
    | poolClosed => exact .closed
    | _ => cases final
  · rintro (_ | _) <;> rfl

/-- The outcomes that another attempt may mend. -/
def Retryable (outcome : Except TransportError Unit) : Prop :=
  ∃ e, outcome = .error e ∧ ¬ NoConnection e

/-- Of at most `limit` attempts, the one after `retries` that another may mend decides what becomes
of the message. -/
inductive Settles (outcome : Nat → Except TransportError Unit) (limit : Nat) : Nat → Fate → Prop
  | written {retries : Nat} (inside : retries < limit)
      (before : ∀ k < retries, Retryable (outcome k)) (ok : outcome retries = .ok ()) :
      Settles outcome limit retries .written
  | refused {retries : Nat} {e : TransportError} (inside : retries < limit)
      (before : ∀ k < retries, Retryable (outcome k)) (error : outcome retries = .error e)
      (final : NoConnection e) : Settles outcome limit retries (.refused e)
  | failed {retries : Nat} {e : TransportError} (last : retries + 1 = limit)
      (before : ∀ k < retries, Retryable (outcome k)) (error : outcome retries = .error e)
      (mendable : ¬ NoConnection e) : Settles outcome limit retries (.failed e)

/-- What one outcome makes of the message. -/
def Fate.ofOutcome : Except TransportError Unit → Fate
  | .ok () => .written
  | .error e => if isFinal e then .refused e else .failed e

theorem Fate.ofOutcome_of_final {e : TransportError} (final : NoConnection e) :
    ofOutcome (.error e) = .refused e := if_pos (isFinal_iff.2 final)

theorem Fate.ofOutcome_of_mendable {e : TransportError} (mendable : ¬ NoConnection e) :
    ofOutcome (.error e) = .failed e := if_neg (mt isFinal_iff.1 mendable)

variable {outcome : Nat → Except TransportError Unit} {limit retries : Nat} {fate : Fate}

theorem settles_iff :
    Settles outcome limit retries fate ↔
      retries < limit ∧ (∀ k < retries, Retryable (outcome k)) ∧
        (Retryable (outcome retries) → retries + 1 = limit) ∧
        fate = Fate.ofOutcome (outcome retries) := by
  constructor
  · rintro (⟨inside, before, ok⟩ | ⟨inside, before, error, final⟩ |
      ⟨last, before, error, mendable⟩)
    · refine ⟨inside, before, ?_, by rw [ok]; rfl⟩
      rintro ⟨e, he, -⟩
      rw [ok] at he
      cases he
    · refine ⟨inside, before, ?_, by rw [error, Fate.ofOutcome_of_final final]⟩
      rintro ⟨e, he, mendable⟩
      rw [error] at he
      cases he
      exact absurd final mendable
    · refine ⟨by omega, before, fun _ => last, ?_⟩
      rw [error, Fate.ofOutcome_of_mendable mendable]
  · rintro ⟨inside, before, last, rfl⟩
    cases decided : outcome retries with
    | ok => exact .written inside before decided
    | error e =>
      by_cases final : NoConnection e
      · rw [Fate.ofOutcome_of_final final]
        exact .refused inside before decided final
      · rw [Fate.ofOutcome_of_mendable final]
        exact .failed (last ⟨e, decided, final⟩) before decided final

/-- **At most one attempt decides.** -/
theorem Settles.unique {retries' : Nat} {fate' : Fate} (h : Settles outcome limit retries fate)
    (h' : Settles outcome limit retries' fate') : retries' = retries ∧ fate' = fate := by
  obtain ⟨inside, before, last, rfl⟩ := settles_iff.1 h
  obtain ⟨inside', before', last', rfl⟩ := settles_iff.1 h'
  -- an attempt before the one that decides can be mended, so it would have to be the last
  have same : retries' = retries := by
    rcases Nat.lt_trichotomy retries' retries with less | same | more
    · have := last' (before _ less)
      omega
    · exact same
    · have := last (before' _ more)
      omega
  subst same
  exact ⟨rfl, rfl⟩

/-- An attempt that can be mended leaves the decision to those after it. -/
theorem Settles.succ (first : Retryable (outcome 0))
    (h : Settles (fun k => outcome (k + 1)) limit retries fate) :
    Settles outcome (limit + 1) (retries + 1) fate := by
  obtain ⟨inside, before, last, rfl⟩ := settles_iff.1 h
  refine settles_iff.2 ⟨by omega, fun k hk => ?_, fun mendable => by rw [last mendable], rfl⟩
  cases k with
  | zero => exact first
  | succ k => exact before k (by omega)

/-! ## 3. The attempts of a sender -/

/-- The sender after an attempt and so many retries. -/
def afterRetries (s : Sender) (payload : Bytes) (retries : Nat) : Sender :=
  { s with
    link := s.link.writes payload (retries + 1)
    counts.retries := s.counts.retries + retries }

/-- What an attempt and so many retries do outside: writes, and before each but the first the
connection is given up if there is one. -/
def told (s : Sender) (payload : Bytes) (retries : Nat) : List Effect :=
  .write s.name payload (s.link.outcomes.answer 0) ::
    (List.range retries).flatMap fun k =>
      (if s.settings.transport.kind.isConnectionOriented then [.reset s.name] else []) ++
        [.write s.name payload (s.link.outcomes.answer (k + 1))]

theorem attemptOnce_eq (s : Sender) (payload : Bytes) :
    s.attemptOnce payload =
      (Fate.ofOutcome (s.link.outcomes.answer 0), s.afterRetries payload 0, s.told payload 0) := by
  rw [← (s.link.write_eq payload).1]
  simp only [attemptOnce, told, (s.link.write_eq payload).1, List.range_zero, List.flatMap_nil]
  rfl

section Again

variable (s : Sender) (payload : Bytes)

/-- After an attempt the answers are those that come later. -/
theorem answer_again (k : Nat) :
    (s.afterRetries payload 0).again.1.link.outcomes.answer k = s.link.outcomes.answer (k + 1) := by
  rw [Nat.add_comm k 1]
  exact s.link.answer_writes payload 1 k

theorem afterRetries_again (retries : Nat) :
    (s.afterRetries payload 0).again.1.afterRetries payload retries =
      s.afterRetries payload (retries + 1) := by
  have count : s.counts.retries + 0 + 1 + retries = s.counts.retries + (retries + 1) := by omega
  simp only [afterRetries, again, Link.writes, count]

theorem told_again (retries : Nat) :
    s.told payload 0 ++ (s.afterRetries payload 0).again.2 ++
        (s.afterRetries payload 0).again.1.told payload retries =
      s.told payload (retries + 1) := by
  simp only [told, answer_again, List.range_succ_eq_map, List.range_zero, List.flatMap_nil,
    List.flatMap_cons, List.flatMap_map, List.cons_append, List.nil_append, List.append_assoc]
  rfl

end Again

/-- **The attempts end with the one that decides.** -/
theorem attempt_eq (s : Sender) (payload : Bytes) (spare : Nat) :
    ∃ retries fate, Settles s.link.outcomes.answer (spare + 1) retries fate ∧
      s.attempt payload spare = (fate, s.afterRetries payload retries, s.told payload retries) := by
  induction spare generalizing s with
  | zero =>
    exact ⟨0, _, settles_iff.2 ⟨by omega, by simp, fun _ => rfl, rfl⟩, attemptOnce_eq s payload⟩
  | succ spare ih =>
    by_cases first : Retryable (s.link.outcomes.answer 0)
    · obtain ⟨e, error, mendable⟩ := first
      obtain ⟨retries, fate, settles, rest⟩ := ih (s.afterRetries payload 0).again.1
      have fails : Fate.ofOutcome (s.link.outcomes.answer 0) = .failed e := by
        rw [error, Fate.ofOutcome_of_mendable mendable]
      rw [funext (answer_again s payload)] at settles
      refine ⟨retries + 1, fate, settles.succ ⟨e, error, mendable⟩, ?_⟩
      rw [attempt, attemptOnce_eq, fails]
      simp only [rest, afterRetries_again, told_again]
    · refine ⟨0, _, settles_iff.2 ⟨by omega, by simp, fun h => absurd h first, rfl⟩, ?_⟩
      rw [attempt, attemptOnce_eq]
      cases decided : s.link.outcomes.answer 0 with
      | ok => rfl
      | error e =>
        have final : NoConnection e := by
          by_contra mendable
          exact first ⟨e, decided, mendable⟩
        rw [Fate.ofOutcome_of_final final]

/-- The same for all attempts that the settings allow. -/
theorem attemptAll_eq (s : Sender) (payload : Bytes) :
    ∃ retries fate, Settles s.link.outcomes.answer s.attempts retries fate ∧
      s.attemptAll payload = (fate, s.afterRetries payload retries, s.told payload retries) := by
  have some_attempt : s.attempts - 1 + 1 = s.attempts := by
    unfold attempts attemptLimit
    omega
  have all := attempt_eq s payload (s.attempts - 1)
  rwa [some_attempt] at all

/-! ## 4. A message of a sender -/

/-- The sender after it has tried to write a message: its modifiers have seen it. -/
def spent (s : Sender) (now : Time.DateTime) (m : Message) (retries : Nat) : Sender :=
  let prepared := s.prepare now m
  prepared.2.afterRetries (prepared.2.payload prepared.1) retries

/-- The attempts to write a message, as they are seen outside. -/
def writes (s : Sender) (now : Time.DateTime) (m : Message) (retries : Nat) : List Effect :=
  let prepared := s.prepare now m
  prepared.2.told (prepared.2.payload prepared.1) retries

theorem attemptAll_prepare (s : Sender) (now : Time.DateTime) (m : Message) :
    ∃ retries fate, Settles s.link.outcomes.answer s.attempts retries fate ∧
      (s.prepare now m).2.attemptAll ((s.prepare now m).2.payload (s.prepare now m).1) =
        (fate, s.spent now m retries, s.writes now m retries) := by
  obtain ⟨retries, fate, settles, all⟩ := (s.prepare now m).2.attemptAll_eq
    ((s.prepare now m).2.payload (s.prepare now m).1)
  exact ⟨retries, fate, settles, all⟩

/-- The next message begins with the answer after those that this one took. -/
theorem answer_spent (s : Sender) (now : Time.DateTime) (m : Message) (retries k : Nat) :
    (s.spent now m retries).link.outcomes.answer k = s.link.outcomes.answer (retries + 1 + k) :=
  s.link.answer_writes _ _ _

end Sender

end Syslog
