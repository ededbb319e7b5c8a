import Syslog.Proofs.Server.Sessions

/-!
# Runs of a server of streams

A server of streams, cut into the smallest things that can happen: a connection comes, the loop
accepts one or fails to, time passes for the loop, something happens to sessions, ended sessions
give their permits back, the loop stops, sessions are ended by force. These come in any order.

* `Happening`, `perform`, `performAll`: what can happen, and a run of it, with a notice of each
  connection that was accepted and each session that has left;
* `Reaches`, `reaches_arrive` to `reaches_endAll`: whatever is done with a server of streams is such
  a run;
* `Accepted`: how it goes when the loop is to accept a connection;
* `seats`, `standings`: who has a session, and how far it has been counted;
* `Kept`, `kept_actEach`, `count_standings_collect`: what no move of a session breaks holds after
  many moves, and sessions that leave do not count.
-/

namespace Syslog.Streams

/-! ## 1. Happenings -/

/-- What can happen to a server of streams. -/
inductive Happening where
  | arrives (a : Arrival)
  /-- The loop accepts a connection, if one is there and the loop is ready for it. -/
  | accepts
  /-- The loop cannot accept a connection. -/
  | fails
  /-- Time passes for the loop. -/
  | waits (time : Time.Duration)
  | acts (who : Nat → Bool) (happening : Session.Happening)
  /-- Sessions that have ended leave. -/
  | collects
  /-- The loop stops, and connections that nobody has accepted are lost. -/
  | stops
  /-- Sessions are ended by force, which is done only after the loop has stopped. -/
  | quits (who : Nat → Bool)

/-- What becomes known of a connection. -/
inductive Notice where
  | rejected (a : Arrival)
  | admitted (a : Arrival) (info : SessionInfo)
  | left (connection : Nat) (info : SessionInfo)

/-- The loop accepts the first connection of the queue, if it is ready for it. -/
def acceptNext (ctx : SessionContext) (s : Streams) (j : Journal) :
    List Notice × Streams × Journal :=
  match s.queue with
  | [] => ([], s, j)
  | a :: rest =>
    match s.loop.accept? with
    | none => ([], s, j)
    | some (true, loop) =>
      ([.admitted a ⟨s.nextId, s.server, a.peer⟩], seat ctx { s with loop, queue := rest } a j)
    | some (false, loop) => ([.rejected a], { s with loop, queue := rest }, j.noteRejected)

/-- The sessions that have ended, and are about to leave. -/
def leaving (s : Streams) : List (Nat × Session) := s.sessions.filter (·.2.phase == .ended)

/-- One happening: what becomes known of connections, and all that follows. -/
def perform (ctx : SessionContext) (s : Streams) (j : Journal) :
    Happening → List Notice × Streams × Journal
  | .arrives a => ([], { s with queue := s.queue ++ [a] }, j)
  | .accepts => acceptNext ctx s j
  | .fails => ([], s.fail j)
  | .waits time => ([], { s with loop := s.loop.pass time }, j)
  | .acts who h =>
    let (sessions, j) := actEach who (h.act ctx) s.sessions j
    ([], { s with sessions }, j)
  | .collects => (s.leaving.map fun (c, session) => .left c session.info, s.collect, j)
  | .stops => ([], { s with loop := s.loop.stop, queue := [] }, j)
  | .quits who =>
    if s.loop.stage = .stopped then
      let (sessions, j) := actEach who (quit ctx) s.sessions j
      ([], { s with sessions }, j)
    else ([], s, j)

/-- Ends by force come after the loop has stopped. -/
theorem perform_quits (ctx : SessionContext) (s : Streams) (j : Journal) (who : Nat → Bool) :
    (s.loop.stage = .stopped ∧ perform ctx s j (.quits who) =
        ([], { s with sessions := (actEach who (quit ctx) s.sessions j).1 },
          (actEach who (quit ctx) s.sessions j).2)) ∨
      (s.loop.stage ≠ .stopped ∧ perform ctx s j (.quits who) = ([], s, j)) := by
  by_cases stopped : s.loop.stage = .stopped
  · exact .inl ⟨stopped, if_pos stopped⟩
  · exact .inr ⟨stopped, if_neg stopped⟩

/-- Happenings, one after the other, each with what the sessions share at that time. -/
def performAll (s : Streams) (j : Journal) :
    List (SessionContext × Happening) → List Notice × Streams × Journal
  | [] => ([], s, j)
  | (ctx, h) :: rest =>
    let (notices, s, j) := perform ctx s j h
    let (more, s, j) := performAll s j rest
    (notices ++ more, s, j)

/-- One run after another is a run. -/
theorem performAll_append (s : Streams) (j : Journal)
    (run rest : List (SessionContext × Happening)) :
    performAll s j (run ++ rest) =
      ((performAll s j run).1 ++
          (performAll (performAll s j run).2.1 (performAll s j run).2.2 rest).1,
        (performAll (performAll s j run).2.1 (performAll s j run).2.2 rest).2) := by
  induction run generalizing s j with
  | nil => rfl
  | cons first run ih =>
    obtain ⟨ctx, h⟩ := first
    simp only [List.cons_append, performAll, ih, List.append_assoc]

/-- One more happening at the end. -/
theorem performAll_concat (s : Streams) (j : Journal) (run : List (SessionContext × Happening))
    (ctx : SessionContext) (h : Happening) :
    performAll s j (run ++ [(ctx, h)]) =
      ((performAll s j run).1 ++
          (perform ctx (performAll s j run).2.1 (performAll s j run).2.2 h).1,
        (perform ctx (performAll s j run).2.1 (performAll s j run).2.2 h).2) := by
  rw [performAll_append]
  simp only [performAll, List.append_nil]

/-! ## 2. What is done with a server of streams -/

/-- Some run leads from one state to another. -/
def Reaches (s : Streams) (j : Journal) (after : Streams × Journal) : Prop :=
  ∃ run, (performAll s j run).2 = after

variable {ctx : SessionContext} {s s' : Streams} {j j' : Journal} {after : Streams × Journal}

theorem reaches_refl : Reaches s j (s, j) := ⟨[], rfl⟩

theorem Reaches.trans (first : Reaches s j (s', j')) (second : Reaches s' j' after) :
    Reaches s j after := by
  obtain ⟨run, eq⟩ := first
  obtain ⟨rest, rfl⟩ := second
  refine ⟨run ++ rest, ?_⟩
  rw [performAll_append, eq]

/-- One happening is a run. -/
theorem reaches_perform (ctx : SessionContext) (h : Happening) :
    Reaches s j (perform ctx s j h).2 := ⟨[(ctx, h)], rfl⟩

/-- The session of a connection that has just been admitted. -/
def newcomer (s : Streams) (a : Arrival) : Session where
  info := ⟨s.nextId, s.server, a.peer⟩
  decoder := { framing := s.framing }

/-- A connection that is admitted gets one more session, with the next number. -/
theorem seat_cases (ctx : SessionContext) (s : Streams) (a : Arrival) (j : Journal) :
    ∃ session j', Session.Moved false (s.newcomer a) j (session, j') ∧
      ∀ queue, seat ctx { s with queue } a j =
        ({ s with
            queue
            nextId := s.nextId + 1
            sessions := s.sessions ++ [(a.connection, session)] }, j') := by
  cases secure : s.isSecure with
  | true =>
    refine ⟨s.newcomer a, j, Session.moved_self, fun queue => ?_⟩
    unfold seat
    simp only [if_true]
    rfl
  | false =>
    have opened : Session.Moved false (s.newcomer a) j ((s.newcomer a).openUp ctx j) :=
      Session.moved_openUp rfl
    refine ⟨((s.newcomer a).openUp ctx j).1, ((s.newcomer a).openUp ctx j).2, opened,
      fun queue => ?_⟩
    unfold seat
    simp only [Bool.false_eq_true, if_false]
    rfl

/-- How it goes when the loop is to accept a connection. -/
inductive Accepted (s : Streams) (j : Journal) : List Notice × Streams × Journal → Prop
  | nobody : Accepted s j ([], s, j)
  | admits {a : Arrival} {rest : List Arrival} {loop : AcceptLoop} {session : Session}
      {j' : Journal} (queue : s.queue = a :: rest) (answer : s.loop.accept? = some (true, loop))
      (moved : Session.Moved false (s.newcomer a) j (session, j')) :
      Accepted s j ([.admitted a (s.newcomer a).info],
        { s with
          loop
          queue := rest
          nextId := s.nextId + 1
          sessions := s.sessions ++ [(a.connection, session)] }, j')
  | rejects {a : Arrival} {rest : List Arrival} {loop : AcceptLoop} (queue : s.queue = a :: rest)
      (answer : s.loop.accept? = some (false, loop)) :
      Accepted s j ([.rejected a], { s with loop, queue := rest }, j.noteRejected)

theorem accepted_acceptNext (ctx : SessionContext) (s : Streams) (j : Journal) :
    Accepted s j (acceptNext ctx s j) := by
  unfold acceptNext
  cases queue : s.queue with
  | nil => exact .nobody
  | cons a rest =>
    cases answer : s.loop.accept? with
    | none => exact .nobody
    | some verdict =>
      obtain ⟨admitted, loop⟩ := verdict
      cases admitted with
      | true =>
        obtain ⟨session, j', moved, seated⟩ := seat_cases ctx { s with loop } a j
        have here : seat ctx { s with loop, queue := rest } a j = _ := seated rest
        simp only [here]
        exact .admits queue answer moved
      | false => exact .rejects queue answer

theorem reaches_acceptEach (queue : List Arrival) (s : Streams) (j : Journal) :
    Reaches { s with queue } j (acceptEach ctx queue s j) := by
  induction queue generalizing s j with
  | nil => exact reaches_refl
  | cons a rest ih =>
    have next := reaches_perform (s := { s with queue := a :: rest }) (j := j) ctx .accepts
    unfold acceptEach
    simp only [perform, acceptNext] at next
    cases answer : s.loop.accept? with
    | none => exact reaches_refl
    | some verdict =>
      obtain ⟨admitted, loop⟩ := verdict
      simp only [answer] at next
      cases admitted with
      | true =>
        obtain ⟨session, j', -, seated⟩ := seat_cases ctx { s with loop } a j
        have here : seat ctx { s with loop } a j = _ := seated s.queue
        have first : Reaches { s with queue := a :: rest } j
            (seat ctx { s with loop, queue := rest } a j) := next
        have seated_rest : seat ctx { s with loop, queue := rest } a j = _ := seated rest
        rw [seated_rest] at first
        simp only [here]
        exact first.trans (ih { s with
          loop
          nextId := s.nextId + 1
          sessions := s.sessions ++ [(a.connection, session)] } j')
      | false => exact next.trans (ih { s with loop } j.noteRejected)

theorem reaches_accept : Reaches s j (accept ctx s j) := reaches_acceptEach s.queue s j

/-- A connection comes, and the loop accepts what it can. -/
theorem reaches_arrive (a : Arrival) : Reaches s j (arrive ctx a s j) :=
  (reaches_perform ctx (.arrives a)).trans reaches_accept

theorem reaches_fail (ctx : SessionContext) : Reaches s j (s.fail j) := reaches_perform ctx .fails

theorem reaches_act (who : Nat → Bool) (h : Session.Happening) :
    Reaches s j (s.act who (h.act ctx) j) :=
  (reaches_perform ctx (.acts who h)).trans (reaches_perform ctx .collects)

theorem reaches_actOn (connection : Nat) (h : Session.Happening) :
    Reaches s j (actOn ctx connection (h.act ctx) s j) :=
  (reaches_act (· == connection) h).trans reaches_accept

theorem reaches_tick (time : Time.Duration) : Reaches s j (s.tick ctx time j) :=
  (reaches_act (fun _ => true) (.passed time)).trans
    ((reaches_perform ctx (.waits time)).trans reaches_accept)

theorem reaches_passUpTo (n : Nat) (time : Time.Duration) (s : Streams) (j : Journal) :
    Reaches s j (passUpTo ctx n time s j) := by
  induction n generalizing time s j with
  | zero => exact reaches_tick time
  | succ n ih =>
    unfold passUpTo
    split
    · split
      · exact (reaches_tick _).trans (ih _ _ _)
      · exact reaches_tick time
    · exact reaches_tick time

theorem reaches_pass (time : Time.Duration) : Reaches s j (s.pass ctx time j) :=
  reaches_passUpTo _ time s j

theorem reaches_drain (wait : Time.Duration) : Reaches s j (s.drain ctx wait j) :=
  (reaches_perform ctx .stops).trans (reaches_act (fun _ => true) (.drained wait))

/-- Sessions are ended by force once the loop has stopped. -/
theorem reaches_endAll (stopped : s.loop.stage = .stopped) : Reaches s j (s.endAll ctx j) := by
  have quits := reaches_perform (s := s) (j := j) ctx (.quits fun _ => true)
  rcases perform_quits ctx s j fun _ => true with ⟨-, eq⟩ | ⟨working, -⟩
  · rw [eq] at quits
    exact quits.trans (reaches_perform ctx .collects)
  · exact absurd stopped working

/-! ## 3. Sessions -/

/-- The connections that have a session, and what is known of it. -/
def seats (sessions : List (Nat × Session)) : List (Nat × SessionInfo) :=
  sessions.map fun (c, session) => (c, session.info)

theorem seats_append (sessions more : List (Nat × Session)) :
    seats (sessions ++ more) = seats sessions ++ seats more := List.map_append

/-- How far the sessions have been counted. -/
def standings (sessions : List (Nat × Session)) : List Standing :=
  sessions.map (·.2.phase.standing)

/-- A law of standings and tallies that no move of a session breaks. -/
def Kept (final : Bool) (law : List Standing → Tally → Prop) : Prop :=
  ∀ front back st t st' t', Moves final st t st' t' →
    law (front ++ st :: back) t → law (front ++ st' :: back) t'

variable {final : Bool} {act : SessionAct}

theorem length_actEach (who : Nat → Bool) (act : SessionAct) (sessions : List (Nat × Session))
    (j : Journal) : (actEach who act sessions j).1.length = sessions.length := by
  induction sessions generalizing j with
  | nil => rfl
  | cons entry rest ih =>
    obtain ⟨c, session⟩ := entry
    exact congrArg (· + 1) (ih _)

/-- What moves sessions leaves them with those who have them. -/
theorem seats_actEach (moved : ∀ s j, Session.Moved final s j (act s j)) (who : Nat → Bool)
    (sessions : List (Nat × Session)) (j : Journal) :
    seats (actEach who act sessions j).1 = seats sessions := by
  induction sessions generalizing j with
  | nil => rfl
  | cons entry rest ih =>
    obtain ⟨c, session⟩ := entry
    have same : (if who c then act session j else (session, j)).1.info = session.info := by
      split
      · exact (moved session j).info
      · rfl
    show (c, _) :: _ = (c, session.info) :: seats rest
    rw [← same, ← ih]
    rfl

/-- What moves sessions one by one keeps what no move breaks. -/
theorem kept_actEach (moved : ∀ s j, Session.Moved final s j (act s j)) (who : Nat → Bool)
    {law : List Standing → Tally → Prop} (kept : Kept final law) (sessions : List (Nat × Session))
    (front : List Standing) (j : Journal) (holds : law (front ++ standings sessions) j.tally) :
    law (front ++ standings (actEach who act sessions j).1)
      (actEach who act sessions j).2.tally := by
  induction sessions generalizing front j with
  | nil => exact holds
  | cons entry rest ih =>
    obtain ⟨c, session⟩ := entry
    have moves : Moves final session.phase.standing j.tally
        (if who c then act session j else (session, j)).1.phase.standing
        (if who c then act session j else (session, j)).2.tally := by
      split
      · exact (moved session j).moves
      · exact .stays
    have first := kept front (standings rest) _ _ _ _ moves holds
    rw [List.append_cons] at first
    have all := ih _ _ first
    rw [← List.append_cons] at all
    exact all

/-- So does a connection that gets a session. -/
theorem Kept.seated {law : List Standing → Tally → Prop} (kept : Kept final law) {a : Arrival}
    {session : Session} (moved : Session.Moved final (s.newcomer a) j (session, j'))
    (holds : law (standings s.sessions ++ [.unopened]) j.tally) :
    law (standings (s.sessions ++ [(a.connection, session)])) j'.tally := by
  have seated : standings (s.sessions ++ [(a.connection, session)]) =
      standings s.sessions ++ [session.phase.standing] := List.map_append
  rw [seated]
  exact kept (standings s.sessions) [] _ _ _ _ moved.moves holds

/-- Sessions that have ended leave, and their permits come back. -/
theorem collect_eq (s : Streams) :
    s.collect = { s with
      sessions := s.sessions.filter (·.2.phase != .ended)
      loop := s.leaving.foldl (fun loop _ => loop.finished) s.loop } := by
  unfold collect leaving
  rw [List.partition_eq_filter_filter]
  rfl

/-- Every session leaves or stays. -/
theorem leaving_append_perm (s : Streams) : (s.leaving ++ s.collect.sessions).Perm s.sessions := by
  rw [collect_eq]
  exact List.filter_append_perm (·.2.phase == .ended) s.sessions

theorem length_leaving (s : Streams) :
    s.collect.sessions.length + s.leaving.length = s.sessions.length := by
  rw [← s.leaving_append_perm.length_eq, List.length_append, Nat.add_comm]

/-- Only sessions that have ended leave. -/
theorem count_standings_collect (s : Streams) {st : Standing} (other : st ≠ .ended) :
    (standings s.collect.sessions).count st = (standings s.sessions).count st := by
  have none_left : (standings s.leaving).count st = 0 := by
    refine List.count_eq_zero.2 fun left => other ?_
    obtain ⟨entry, leaves, rfl⟩ := List.mem_map.1 left
    have ended : (entry.2.phase == .ended) = true := (List.mem_filter.1 leaves).2
    rw [eq_of_beq ended]
    rfl
  have all := (s.leaving_append_perm.map (·.2.phase.standing)).count_eq st
  rw [List.map_append, List.count_append] at all
  have both : (standings s.leaving).count st + (standings s.collect.sessions).count st =
      (standings s.sessions).count st := all
  rw [← both, none_left, Nat.zero_add]

/-- One session's standing among the others. -/
theorem count_standing (front back : List Standing) (st x : Standing) :
    (front ++ st :: back).count x = (front ++ back).count x + if st = x then 1 else 0 := by
  rw [List.count_append, List.count_cons, List.count_append, Nat.add_assoc]
  simp only [beq_iff_eq]

end Syslog.Streams
