import Mathlib.Data.List.Induction
import Syslog.Proofs.Server.AcceptLoop
import Syslog.Proofs.Server.Streams

/-!
# Permits and rejections

What a server of streams with a limit does with its permits, and when it rejects a connection.

* `judged`: the connections that the loop has decided about;
* `sound_performAll`: along every run each permit is free, or held by a session or by the loop;
* `refusal_performAll`: a refusal that the loop has in hand is from a moment at which all permits
  were out;
* `rejection_reasons`: a connection is rejected because all permits are out, or because they were
  when the wait for one was given up;
* `rejected_with_free_permit`: the second does not imply the first.
-/

namespace Syslog.Streams

open AcceptLoop (Sound Turned)

variable {limit : Nat} {policy : OverflowPolicy} {ctx : SessionContext} {s : Streams} {j : Journal}

/-! ## 1. Starts and decisions -/

/-- The server of streams of settings, as it starts. -/
def begun (server : String) (framing : Framing) (isSecure : Bool) (settings : ServerSettings) :
    Streams :=
  { server, framing, isSecure, loop := .turn (.unused settings) }

/-- The connection that the loop has decided about. -/
def Notice.judged? : Notice → Option Arrival
  | rejected a | admitted a _ => some a
  | left .. => none

/-- The connections that the loop has decided about, in order. -/
def judged (notices : List Notice) : List Arrival := notices.filterMap Notice.judged?

theorem judged_append (notices more : List Notice) :
    judged (notices ++ more) = judged notices ++ judged more := List.filterMap_append

/-! ## 2. Permits along a run -/

theorem sound_begun (server : String) (framing : Framing) (isSecure : Bool)
    (settings : ServerSettings) (bounded : 0 < settings.maxActiveSessions) :
    Sound settings.maxActiveSessions settings.overflow 0
      (begun server framing isSecure settings).loop :=
  (AcceptLoop.turned_turn (a := .unused settings) bounded rfl rfl rfl (Nat.zero_le _)).toSound

/-- **Whatever happens, each permit that is out is held by a session or by the loop.** -/
theorem sound_perform (bounded : 0 < limit) (h : Sound limit policy s.sessions.length s.loop)
    (happening : Happening) :
    Sound limit policy (perform ctx s j happening).2.1.sessions.length
      (perform ctx s j happening).2.1.loop := by
  cases happening with
  | arrives a => exact h
  | accepts =>
    have accepted := accepted_acceptNext ctx s j
    show Sound limit policy (acceptNext ctx s j).2.1.sessions.length (acceptNext ctx s j).2.1.loop
    generalize acceptNext ctx s j = after at accepted ⊢
    cases accepted with
    | nobody => exact h
    | admits queue answer moved =>
      show Sound limit policy (s.sessions ++ [_]).length _
      rw [List.length_append, List.length_singleton]
      exact (h.of_admitted bounded answer).toSound
    | rejects queue answer => exact (h.of_rejected bounded answer).1.toSound
  | fails =>
    show Sound limit policy (s.fail j).1.sessions.length (s.fail j).1.loop
    unfold fail
    cases failed : s.loop.fail? with
    | none => exact h
    | some loop => exact h.fail? failed
  | waits time => exact (h.pass bounded time).1
  | acts who happening =>
    show Sound limit policy (actEach who (happening.act ctx) s.sessions j).1.length s.loop
    rw [length_actEach]
    exact h
  | collects =>
    rw [← s.length_leaving] at h
    have back := h.finished_each bounded s.leaving
    show Sound limit policy s.collect.sessions.length s.collect.loop
    rw [collect_eq] at back ⊢
    exact back
  | stops => exact h.stop
  | quits who =>
    rcases perform_quits ctx s j who with ⟨-, eq⟩ | ⟨-, eq⟩
    · rw [eq]
      show Sound limit policy (actEach who (quit ctx) s.sessions j).1.length s.loop
      rw [length_actEach]
      exact h
    · rw [eq]
      exact h

theorem sound_performAll (bounded : 0 < limit) (h : Sound limit policy s.sessions.length s.loop)
    (run : List (SessionContext × Happening)) :
    Sound limit policy (performAll s j run).2.1.sessions.length (performAll s j run).2.1.loop := by
  induction run generalizing s j with
  | nil => exact h
  | cons first rest ih =>
    obtain ⟨ctx, happening⟩ := first
    exact ih (sound_perform bounded h happening)

/-! ## 3. Rejections -/

/-- **Where a refusal comes from**: the loop had it before, and has decided about no connection
since, or all permits are out. -/
theorem refusal_perform (bounded : 0 < limit) (h : Sound limit policy s.sessions.length s.loop)
    (happening : Happening)
    (refusal : (perform ctx s j happening).2.1.loop.stage = .accepting .refusal) :
    (s.loop.stage = .accepting .refusal ∧ judged (perform ctx s j happening).1 = []) ∨
      (perform ctx s j happening).2.1.sessions.length = limit := by
  cases happening with
  | arrives a => exact .inl ⟨refusal, rfl⟩
  | accepts =>
    have accepted := accepted_acceptNext ctx s j
    simp only [perform] at refusal ⊢
    generalize acceptNext ctx s j = after at accepted refusal ⊢
    cases accepted with
    | nobody => exact .inl ⟨refusal, rfl⟩
    | admits queue answer moved =>
      refine .inr ?_
      show (s.sessions ++ [_]).length = limit
      rw [List.length_append, List.length_singleton]
      exact (h.of_admitted bounded answer).refused refusal
    | rejects queue answer => exact .inr ((h.of_rejected bounded answer).1.refused refusal)
  | fails =>
    simp only [perform, fail] at refusal ⊢
    cases failed : s.loop.fail? with
    | none =>
      rw [failed] at refusal
      exact .inl ⟨refusal, rfl⟩
    | some loop =>
      obtain ⟨inHand, -, rfl⟩ := AcceptLoop.fail?_cases failed
      rw [failed] at refusal
      cases refusal
  | waits time =>
    rcases (h.pass bounded time).2 refusal with before | full
    · exact .inl ⟨before, rfl⟩
    · exact .inr full
  | acts who happening => exact .inl ⟨refusal, rfl⟩
  | collects =>
    have before : s.collect.loop.stage = .accepting .refusal := refusal
    rw [collect_eq] at before
    refine .inl ⟨AcceptLoop.refusal_of_finished_each s.leaving before, ?_⟩
    show judged (s.leaving.map _) = []
    refine List.filterMap_eq_nil_iff.2 fun notice is_leaving => ?_
    obtain ⟨entry, -, rfl⟩ := List.mem_map.1 is_leaving
    rfl
  | stops => cases refusal
  | quits who =>
    rcases perform_quits ctx s j who with ⟨-, eq⟩ | ⟨-, eq⟩
    · rw [eq] at refusal ⊢
      exact .inl ⟨refusal, rfl⟩
    · rw [eq] at refusal ⊢
      exact .inl ⟨refusal, rfl⟩

/-- A refusal in the hand of the loop is from a moment at which all permits were out. -/
theorem refusal_performAll (bounded : 0 < limit)
    (h : Sound limit policy s.sessions.length s.loop)
    (fresh : s.loop.stage = .accepting .refusal → s.sessions.length = limit)
    (run : List (SessionContext × Happening))
    (refusal : (performAll s j run).2.1.loop.stage = .accepting .refusal) :
    ∃ before after, run = before ++ after ∧
      (performAll s j before).2.1.sessions.length = limit ∧
      judged (performAll (performAll s j before).2.1 (performAll s j before).2.2 after).1 = [] := by
  induction run using List.reverseRecOn with
  | nil => exact ⟨[], [], rfl, fresh refusal, rfl⟩
  | append_singleton run last ih =>
    obtain ⟨ctx, happening⟩ := last
    have sound := sound_performAll (j := j) bounded h run
    have now := refusal
    rw [performAll_concat] at now
    rcases refusal_perform bounded sound happening now with ⟨earlier, nothing⟩ | full
    · obtain ⟨before, after, rfl, out, silent⟩ := ih earlier
      refine ⟨before, after ++ [(ctx, happening)], List.append_assoc .., out, ?_⟩
      rw [performAll_concat, judged_append, silent]
      rw [performAll_append] at nothing
      exact nothing
    · refine ⟨run ++ [(ctx, happening)], [], (List.append_nil _).symm, ?_, rfl⟩
      rw [performAll_concat]
      exact full

/-- **Why a connection is rejected, after any run.** Under a limit a connection is rejected for one
of two reasons. Either the policy is to reject, and all permits are held by sessions at that moment.
Or the policy is to block, all permits were held by sessions at an earlier moment, when the wait for
one was given up, and this is the first connection that the loop decides about since then. -/
theorem rejection_reasons (server : String) (framing : Framing) (isSecure : Bool)
    (settings : ServerSettings) (bounded : 0 < settings.maxActiveSessions) (start : Journal)
    (run : List (SessionContext × Happening)) :
    let begin := begun server framing isSecure settings
    let after := performAll begin start run
    ∀ ctx a, (acceptNext ctx after.2.1 after.2.2).1 = [.rejected a] →
      (settings.overflow = .reject ∧ after.2.1.sessions.length = settings.maxActiveSessions) ∨
        (settings.overflow = .block ∧ ∃ before since, run = before ++ since ∧
          (performAll begin start before).2.1.sessions.length = settings.maxActiveSessions ∧
          judged (performAll (performAll begin start before).2.1 (performAll begin start before).2.2
            since).1 = []) := by
  intro begin after ctx a rejected
  have first := sound_begun server framing isSecure settings bounded
  have sound : Sound settings.maxActiveSessions settings.overflow after.2.1.sessions.length
      after.2.1.loop := sound_performAll (s := begin) bounded first run
  have accepted := accepted_acceptNext ctx after.2.1 after.2.2
  generalize acceptNext ctx after.2.1 after.2.2 = next at accepted rejected
  cases accepted with
  | nobody => cases rejected
  | admits _ _ _ => cases rejected
  | rejects queue answer =>
    rcases (sound.of_rejected bounded answer).2 with ⟨nothing, full⟩ | refusal
    · have has : after.2.1.loop.stage.inHand? = some .nothing := by
        rw [nothing]
        rfl
      have rejects := sound.policy_of has
      exact .inl ⟨rejects, full⟩
    · have has : after.2.1.loop.stage.inHand? = some .refusal := by
        rw [refusal]
        rfl
      have blocks := sound.policy_of has
      have fresh : begin.loop.stage = .accepting .refusal →
          begin.sessions.length = settings.maxActiveSessions := by
        intro early
        exact (AcceptLoop.turned_turn (a := .unused settings) bounded rfl rfl rfl
          (Nat.zero_le _)).refused early
      exact .inr ⟨blocks, refusal_performAll (s := begin) bounded first fresh run refusal⟩

/-- With one permit and the policy to reject, the second connection is rejected. -/
theorem rejection_reasons_of_second :
    let settings : ServerSettings := { maxActiveSessions := 1 }
    let ctx : SessionContext := ⟨[], .utf8, none, .zero⟩
    let run : List (SessionContext × Happening) :=
      [(ctx, .arrives ⟨0, "x"⟩), (ctx, .accepts), (ctx, .arrives ⟨1, "y"⟩)]
    let after := performAll (begun "s" (.make [10] 8192) false settings) {} run
    (acceptNext ctx after.2.1 after.2.2).1 = [.rejected ⟨1, "y"⟩] ∧
      after.2.1.sessions.length = 1 := by
  intro settings ctx run after
  have reasons := rejection_reasons "s" (.make [10] 8192) false settings (by decide) {} run ctx
    ⟨1, "y"⟩ rfl
  rcases reasons with ⟨-, full⟩ | ⟨blocks, -⟩
  · exact ⟨rfl, full⟩
  · cases blocks

/-- With one permit and the policy to block, a wait is given up while a session has the permit. The
session ends, and the next connection is rejected although the permit is free. -/
theorem rejected_with_free_permit :
    let settings : ServerSettings :=
      { maxActiveSessions := 1, overflow := .block, blockTimeout := .ofMillis 10 }
    let ctx : SessionContext := ⟨[], .utf8, some (.ofMillis 20), .zero⟩
    let run : List (SessionContext × Happening) :=
      [(ctx, .arrives ⟨0, "x"⟩), (ctx, .accepts), (ctx, .waits (.ofMillis 10)),
        (ctx, .acts (· == 0) (.passed (.ofMillis 20))), (ctx, .collects),
        (ctx, .arrives ⟨1, "y"⟩)]
    let after := performAll (begun "s" (.make [10] 8192) false settings) {} run
    after.2.1.sessions.length = 0 ∧ after.2.1.loop.admission.available? = some 1 ∧
      (acceptNext ctx after.2.1 after.2.2).1 = [.rejected ⟨1, "y"⟩] :=
  ⟨rfl, rfl, rfl⟩

end Syslog.Streams
