import Syslog.Proofs.Server.Admission

/-!
# No permit and no connection is lost

The books of a server of streams with a limit, over any run: each connection that the loop has
decided about was rejected or has got a session of its own, each session is still there or has left,
and never are more sessions open than the limit allows.

* `rejections`, `admissions`, `departures`: what the notices of a run say;
* `Registered`, `registered_performAll`: notices, sessions and the count of rejections agree;
* `Even`, `Roomy`, `counted_performAll`: what was opened and not closed is what the sessions show,
  until the loop stops, and within the limit even after that;
* `permits_conserved`: the books of a whole run.
-/

namespace Syslog.Streams

open AcceptLoop (Sound Turned)

variable {limit : Nat} {policy : OverflowPolicy} {ctx : SessionContext} {s : Streams} {j : Journal}

/-! ## 1. What the notices say -/

/-- Does it say that a connection was rejected? -/
def Notice.isRejection : Notice → Bool
  | rejected _ => true
  | admitted .. | left .. => false

/-- The connection that was admitted, with its session. -/
def Notice.admitted? : Notice → Option (Nat × SessionInfo)
  | admitted a info => some (a.connection, info)
  | rejected _ | left .. => none

/-- The connection whose session has left. -/
def Notice.left? : Notice → Option (Nat × SessionInfo)
  | left c info => some (c, info)
  | rejected _ | admitted .. => none

/-- How many connections were rejected. -/
def rejections (notices : List Notice) : Nat := notices.countP Notice.isRejection

/-- The sessions that connections have got, in order. -/
def admissions (notices : List Notice) : List (Nat × SessionInfo) :=
  notices.filterMap Notice.admitted?

/-- The sessions that have left, in order. -/
def departures (notices : List Notice) : List (Nat × SessionInfo) :=
  notices.filterMap Notice.left?

/-- The connection that has come. -/
def Happening.arrival? : Happening → Option Arrival
  | arrives a => some a
  | accepts | fails | waits _ | acts .. | collects | stops | quits _ => none

/-- The connections that have come in a run, in order. -/
def arrivals (run : List (SessionContext × Happening)) : List Arrival :=
  run.filterMap (·.2.arrival?)

/-- A connection that the loop has decided about was either rejected or admitted. -/
theorem length_judged (notices : List Notice) :
    (judged notices).length = rejections notices + (admissions notices).length := by
  induction notices with
  | nil => rfl
  | cons notice rest ih =>
    cases notice with
    | rejected a =>
      show (judged rest).length + 1 =
        (Notice.rejected a :: rest).countP _ + (admissions rest).length
      rw [List.countP_cons_of_pos rfl, ih]
      exact Nat.add_right_comm _ _ _
    | admitted a info =>
      show (judged rest).length + 1 =
        (Notice.admitted a info :: rest).countP _ + ((admissions rest).length + 1)
      rw [List.countP_cons_of_neg Bool.false_ne_true, ih]
      exact Nat.add_assoc _ _ _
    | left c info =>
      show (judged rest).length = (Notice.left c info :: rest).countP _ + (admissions rest).length
      rw [List.countP_cons_of_neg Bool.false_ne_true, ih]
      rfl

theorem rejections_append (notices more : List Notice) :
    rejections (notices ++ more) = rejections notices + rejections more := List.countP_append

theorem admissions_append (notices more : List Notice) :
    admissions (notices ++ more) = admissions notices ++ admissions more := List.filterMap_append

theorem departures_append (notices more : List Notice) :
    departures (notices ++ more) = departures notices ++ departures more := List.filterMap_append

/-- What leaves at once. -/
theorem departures_leaving (entries : List (Nat × Session)) :
    departures (entries.map fun (c, session) => .left c session.info) = seats entries := by
  induction entries with
  | nil => rfl
  | cons entry rest ih => exact congrArg (_ :: ·) ih

/-! ## 2. Sessions and connections -/

/-- A loop that has stopped accepts nothing, and never starts again. -/
theorem stopped_perform (stopped : s.loop.stage = .stopped) (happening : Happening) :
    (perform ctx s j happening).2.1.loop.stage = .stopped := by
  cases happening with
  | arrives a => exact stopped
  | accepts =>
    show (acceptNext ctx s j).2.1.loop.stage = .stopped
    have none_accepted : s.loop.accept? = none := by
      unfold AcceptLoop.accept?
      rw [stopped]
    unfold acceptNext
    cases s.queue with
    | nil => exact stopped
    | cons a rest =>
      simp only [none_accepted]
      exact stopped
  | fails =>
    have none_failed : s.loop.fail? = none := by
      unfold AcceptLoop.fail?
      rw [stopped]
    show (s.fail j).1.loop.stage = .stopped
    unfold fail
    rw [none_failed]
    exact stopped
  | waits time =>
    show (s.loop.pass time).stage = .stopped
    unfold AcceptLoop.pass
    rw [stopped]
    exact stopped
  | acts who happening => exact stopped
  | collects =>
    show s.collect.loop.stage = .stopped
    rw [collect_eq]
    exact AcceptLoop.stopped_finished_each s.leaving stopped
  | stops => rfl
  | quits who =>
    rcases perform_quits ctx s j who with ⟨-, eq⟩ | ⟨-, eq⟩
    · rw [eq]
      exact stopped
    · rw [eq]
      exact stopped

/-- The notices of a run, what has come, what is there and what was counted agree. -/
structure Registered (start : Tally) (arrived : List Arrival) (notices : List Notice) (s : Streams)
    (t : Tally) : Prop where
  /-- Connections are decided about in the order in which they have come. -/
  judged : judged notices <+: arrived
  queued : s.loop.stage ≠ .stopped → arrived = Streams.judged notices ++ s.queue
  rejected : t.rejected = start.rejected + rejections notices
  /-- Each admitted connection has a session, or its session has left. -/
  seats : (admissions notices).Perm (seats s.sessions ++ departures notices)
  /-- No two sessions have one number. -/
  numbers : (admissions notices).map (·.2.id) = List.range' 1 (admissions notices).length
  next : s.nextId = (admissions notices).length + 1

variable {start : Tally} {arrived : List Arrival} {notices : List Notice}

/-- What only moves sessions or the loop leaves the register as it is. -/
theorem Registered.frame {s' : Streams} {t t' : Tally} (h : Registered start arrived notices s t)
    (stage : s'.loop.stage ≠ .stopped → s.loop.stage ≠ .stopped) (queue : s'.queue = s.queue)
    (same : Streams.seats s'.sessions = Streams.seats s.sessions) (next : s'.nextId = s.nextId)
    (rejected : t'.rejected = t.rejected) : Registered start arrived notices s' t' where
  judged := h.judged
  queued working := by
    rw [queue]
    exact h.queued (stage working)
  rejected := rejected.trans h.rejected
  seats := by
    rw [same]
    exact h.seats
  numbers := h.numbers
  next := next.trans h.next

/-- Nobody has come, and nothing is noticed. -/
theorem Registered.quiet {t : Tally} (h : Registered start arrived notices s t) :
    Registered start (arrived ++ []) (notices ++ []) s t := by
  rw [List.append_nil, List.append_nil]
  exact h

/-- What moves sessions rejects no connection. -/
theorem rejected_actEach {final : Bool} {act : SessionAct}
    (moved : ∀ s j, Session.Moved final s j (act s j)) (who : Nat → Bool)
    (sessions : List (Nat × Session)) (j : Journal) :
    (actEach who act sessions j).2.tally.rejected = j.tally.rejected := by
  have kept : Kept final fun _ t => t.rejected = j.tally.rejected := by
    intro _ _ _ _ _ _ moves before
    exact moves.rejected.trans before
  exact kept_actEach moved who kept sessions [] j rfl

/-- A connection that has come waits in the queue. -/
theorem Registered.arrives (h : Registered start arrived notices s j.tally) (a : Arrival) :
    Registered start (arrived ++ [a]) notices { s with queue := s.queue ++ [a] } j.tally where
  judged := h.judged.trans (List.prefix_append _ _)
  queued working := by
    rw [h.queued working, List.append_assoc]
  rejected := h.rejected
  seats := h.seats
  numbers := h.numbers
  next := h.next

/-- A connection that is admitted gets a session with the next number. -/
theorem Registered.admits (h : Registered start arrived notices s j.tally) {a : Arrival}
    {rest : List Arrival} (loop : AcceptLoop) {session : Session} {j' : Journal}
    (queue : s.queue = a :: rest) (working : s.loop.stage ≠ .stopped)
    (info : session.info = (s.newcomer a).info) (rejected : j'.tally.rejected = j.tally.rejected) :
    Registered start arrived (notices ++ [.admitted a (s.newcomer a).info])
      { s with
        loop
        queue := rest
        nextId := s.nextId + 1
        sessions := s.sessions ++ [(a.connection, session)] } j'.tally := by
  have admitted : admissions (notices ++ [.admitted a (s.newcomer a).info]) =
      admissions notices ++ [(a.connection, session.info)] := by
    rw [admissions_append, info]
    rfl
  have departed : departures (notices ++ [.admitted a (s.newcomer a).info]) =
      departures notices := by
    rw [departures_append]
    exact List.append_nil _
  have came : arrived = Streams.judged (notices ++ [.admitted a (s.newcomer a).info]) ++ rest := by
    rw [h.queued working, queue, judged_append]
    exact List.append_cons _ _ _
  refine ⟨?_, fun _ => came, ?_, ?_, ?_, ?_⟩
  · rw [came]
    exact List.prefix_append _ _
  · rw [rejected, rejections_append]
    exact h.rejected
  · rw [admitted, departed]
    show (admissions notices ++ [(a.connection, session.info)]).Perm
      (Streams.seats (s.sessions ++ [(a.connection, session)]) ++ departures notices)
    rw [seats_append, List.append_assoc]
    refine (h.seats.append_right _).trans ?_
    rw [List.append_assoc]
    exact List.perm_append_comm.append_left _
  · have number : session.info.id = 1 + (admissions notices).length := by
      rw [info, Nat.add_comm]
      exact h.next
    rw [admitted, List.map_append, h.numbers, List.length_append, List.length_singleton,
      List.range'_1_concat, List.map_singleton, number]
  · rw [admitted, List.length_append, List.length_singleton]
    exact congrArg (· + 1) h.next

/-- A connection that is rejected is counted. -/
theorem Registered.rejects (h : Registered start arrived notices s j.tally) {a : Arrival}
    {rest : List Arrival} (loop : AcceptLoop) (queue : s.queue = a :: rest)
    (working : s.loop.stage ≠ .stopped) :
    Registered start arrived (notices ++ [.rejected a]) { s with loop, queue := rest }
      j.noteRejected.tally := by
  have admitted : admissions (notices ++ [.rejected a]) = admissions notices := by
    rw [admissions_append]
    exact List.append_nil _
  have departed : departures (notices ++ [.rejected a]) = departures notices := by
    rw [departures_append]
    exact List.append_nil _
  have came : arrived = Streams.judged (notices ++ [.rejected a]) ++ rest := by
    rw [h.queued working, queue, judged_append]
    exact List.append_cons _ _ _
  refine ⟨?_, fun _ => came, ?_, ?_, ?_, ?_⟩
  · rw [came]
    exact List.prefix_append _ _
  · rw [j.tally_noteRejected, rejections_append]
    exact congrArg (· + 1) h.rejected
  · rw [admitted, departed]
    exact h.seats
  · rw [admitted]
    exact h.numbers
  · rw [admitted]
    exact h.next

/-- Sessions that leave are noticed. -/
theorem Registered.collects (h : Registered start arrived notices s j.tally)
    (stage : s.collect.loop.stage ≠ .stopped → s.loop.stage ≠ .stopped) :
    Registered start arrived
      (notices ++ s.leaving.map fun (c, session) => .left c session.info) s.collect j.tally := by
  generalize more_eq : (s.leaving.map fun (c, session) => Notice.left c session.info) = more
  have nobody : Streams.judged more = [] ∧ rejections more = 0 ∧ admissions more = [] := by
    subst more_eq
    induction s.leaving with
    | nil => exact ⟨rfl, rfl, rfl⟩
    | cons entry rest ih => exact ih
  have admitted : admissions (notices ++ more) = admissions notices := by
    rw [admissions_append, nobody.2.2, List.append_nil]
  have decided : Streams.judged (notices ++ more) = Streams.judged notices := by
    rw [judged_append, nobody.1, List.append_nil]
  have queue : s.collect.queue = s.queue := by
    rw [collect_eq]
  have next : s.collect.nextId = s.nextId := by
    rw [collect_eq]
  refine ⟨?_, fun working => ?_, ?_, ?_, ?_, ?_⟩
  · rw [decided]
    exact h.judged
  · rw [decided, queue]
    exact h.queued (stage working)
  · rw [rejections_append, nobody.2.1]
    exact h.rejected
  · rw [admitted, departures_append, ← more_eq, departures_leaving]
    have parted : (Streams.seats s.leaving ++ Streams.seats s.collect.sessions).Perm
        (Streams.seats s.sessions) := by
      rw [← seats_append]
      exact s.leaving_append_perm.map _
    refine (h.seats.trans (parted.symm.append_right _)).trans ?_
    rw [List.append_assoc, ← List.append_assoc (Streams.seats s.collect.sessions)]
    exact List.perm_append_comm
  · rw [admitted]
    exact h.numbers
  · rw [admitted, next]
    exact h.next

/-- **What a happening enters in the register.** -/
theorem registered_perform (h : Registered start arrived notices s j.tally)
    (happening : Happening) :
    Registered start (arrived ++ happening.arrival?.toList)
      (notices ++ (perform ctx s j happening).1) (perform ctx s j happening).2.1
      (perform ctx s j happening).2.2.tally := by
  have working : (perform ctx s j happening).2.1.loop.stage ≠ .stopped → s.loop.stage ≠ .stopped :=
    fun still stopped => still (stopped_perform stopped happening)
  cases happening with
  | arrives a =>
    show Registered start (arrived ++ [a]) (notices ++ []) _ _
    rw [List.append_nil]
    exact h.arrives a
  | accepts =>
    have accepted := accepted_acceptNext ctx s j
    simp only [perform]
    generalize acceptNext ctx s j = after at accepted ⊢
    cases accepted with
    | nobody => exact h.quiet
    | admits queue answer moved =>
      show Registered start (arrived ++ []) _ _ _
      rw [List.append_nil]
      exact h.admits _ queue (AcceptLoop.working_of_accept? answer) moved.info moved.moves.rejected
    | rejects queue answer =>
      show Registered start (arrived ++ []) _ _ _
      rw [List.append_nil]
      exact h.rejects _ queue (AcceptLoop.working_of_accept? answer)
  | fails =>
    refine Registered.quiet ?_
    show Registered start arrived notices (s.fail j).1 (s.fail j).2.tally
    unfold fail
    cases failed : s.loop.fail? with
    | none => exact h
    | some loop => exact h.frame (fun _ => AcceptLoop.working_of_fail? failed) rfl rfl rfl rfl
  | waits time => exact (h.frame working rfl rfl rfl rfl).quiet
  | acts who act =>
    have moved : ∀ session j, Session.Moved false session j (act.act ctx session j) :=
      fun session j => Session.moved_act act session j
    exact (h.frame working rfl (seats_actEach moved who s.sessions j) rfl
      (rejected_actEach moved who s.sessions j)).quiet
  | collects =>
    show Registered start (arrived ++ []) _ _ _
    rw [List.append_nil]
    exact h.collects working
  | stops => exact { h.quiet with queued := fun still => absurd rfl still }
  | quits who =>
    rcases perform_quits ctx s j who with ⟨-, eq⟩ | ⟨-, eq⟩
    · have moved : ∀ session j, Session.Moved true session j (quit ctx session j) :=
        fun _ _ => Session.moved_quit
      rw [eq]
      refine Registered.quiet ?_
      exact h.frame id rfl (seats_actEach moved who s.sessions j) rfl
        (rejected_actEach moved who s.sessions j)
    · rw [eq]
      exact h.quiet

/-! ## 3. Open sessions -/

/-- What was opened since the start and not closed is what the sessions show: open ones, and those
whose opening has not returned. -/
def Even (start : Tally) (l : List Standing) (t : Tally) : Prop :=
  t.opened + start.closed = start.opened + t.closed + (l.count .opened + l.count .hung)

/-- What was opened since the start and not closed is within the limit, and so it is with the
sessions that may still open. -/
def Roomy (limit : Nat) (start : Tally) (l : List Standing) (t : Tally) : Prop :=
  t.opened + start.closed + l.count .unopened ≤ start.opened + t.closed + limit

theorem kept_even (start : Tally) : Kept false (Even start) := by
  intro front back st t st' t' moves before
  unfold Even at before ⊢
  rw [count_standing, count_standing] at before ⊢
  cases moves with
  | stays => exact before
  | opens | hangs | closes | drops =>
    simp only [reduceCtorEq, if_true, if_false] at before ⊢
    omega
  | forgets forced => cases forced

theorem kept_roomy (limit : Nat) (start : Tally) : Kept true (Roomy limit start) := by
  intro front back st t st' t' moves before
  unfold Roomy at before ⊢
  rw [count_standing] at before ⊢
  cases moves with
  | stays => exact before
  | opens | hangs | closes | drops | forgets =>
    simp only [reduceCtorEq, if_true, if_false] at before ⊢
    omega

/-- Each session has one standing. -/
theorem count_add_le_length (l : List Standing) :
    l.count .unopened + (l.count .opened + l.count .hung) ≤ l.length := by
  induction l with
  | nil => exact Nat.le_refl 0
  | cons st rest ih =>
    rw [List.count_cons, List.count_cons, List.count_cons, List.length_cons]
    cases st <;> simp <;> omega

/-- As long as the loop works, the limit of sessions is one of open sessions. -/
theorem Even.roomy {l : List Standing} {t : Tally} (even : Even start l t)
    (within : l.length ≤ limit) : Roomy limit start l t := by
  have few := count_add_le_length l
  unfold Even at even
  unfold Roomy
  omega

/-- The count of open sessions. -/
structure Counted (limit : Nat) (start : Tally) (s : Streams) (t : Tally) : Prop where
  even : s.loop.stage ≠ .stopped → Even start (standings s.sessions) t
  roomy : Roomy limit start (standings s.sessions) t

/-- **What a happening changes in the count of open sessions.** -/
theorem counted_perform (bounded : 0 < limit) (sound : Sound limit policy s.sessions.length s.loop)
    (h : Counted limit start s j.tally) (happening : Happening) :
    Counted limit start (perform ctx s j happening).2.1 (perform ctx s j happening).2.2.tally := by
  have working : (perform ctx s j happening).2.1.loop.stage ≠ .stopped → s.loop.stage ≠ .stopped :=
    fun still stopped => still (stopped_perform stopped happening)
  cases happening with
  | arrives a => exact ⟨h.even, h.roomy⟩
  | accepts =>
    have accepted := accepted_acceptNext ctx s j
    simp only [perform]
    generalize acceptNext ctx s j = after at accepted ⊢
    cases accepted with
    | nobody => exact h
    | @admits a rest loop session j' queue answer moved =>
      have works := AcceptLoop.working_of_accept? answer
      have turned := sound.of_admitted bounded answer
      have unopened : Even start (standings s.sessions ++ [.unopened]) j.tally := by
        have before := h.even works
        unfold Even at before ⊢
        rw [count_standing, count_standing, List.append_nil]
        exact before
      have even : Even start (standings (s.sessions ++ [(a.connection, session)])) j'.tally :=
        (kept_even start).seated moved unopened
      have within : (standings (s.sessions ++ [(a.connection, session)])).length ≤ limit := by
        rw [standings, List.length_map, List.length_append, List.length_singleton]
        exact Nat.le_trans (turned.held ▸ Nat.le_add_right _ _) turned.within
      exact ⟨fun _ => even, even.roomy within⟩
    | rejects queue answer =>
      exact ⟨fun _ => h.even (AcceptLoop.working_of_accept? answer), h.roomy⟩
  | fails =>
    show Counted limit start (s.fail j).1 (s.fail j).2.tally
    unfold fail
    cases failed : s.loop.fail? with
    | none => exact h
    | some loop => exact ⟨fun _ => h.even (AcceptLoop.working_of_fail? failed), h.roomy⟩
  | waits time => exact ⟨fun still => h.even (working still), h.roomy⟩
  | acts who act =>
    have moved : ∀ session j, Session.Moved false session j (act.act ctx session j) :=
      fun session j => Session.moved_act act session j
    have moved' : ∀ session j, Session.Moved true session j (act.act ctx session j) :=
      fun session j => Session.moved_act act session j
    exact ⟨fun still => kept_actEach moved who (kept_even start) s.sessions [] j (h.even still),
      kept_actEach moved' who (kept_roomy limit start) s.sessions [] j h.roomy⟩
  | collects =>
    refine ⟨fun still => ?_, ?_⟩
    · have before := h.even (working still)
      unfold Even at before ⊢
      show j.tally.opened + start.closed = start.opened + j.tally.closed +
        ((standings s.collect.sessions).count .opened + (standings s.collect.sessions).count .hung)
      rw [count_standings_collect s (by decide), count_standings_collect s (by decide)]
      exact before
    · have before := h.roomy
      unfold Roomy at before ⊢
      show j.tally.opened + start.closed + (standings s.collect.sessions).count .unopened ≤ _
      rw [count_standings_collect s (by decide)]
      exact before
  | stops => exact ⟨fun still => absurd rfl still, h.roomy⟩
  | quits who =>
    rcases perform_quits ctx s j who with ⟨stopped, eq⟩ | ⟨-, eq⟩
    · have moved : ∀ session j, Session.Moved true session j (quit ctx session j) :=
        fun _ _ => Session.moved_quit
      rw [eq]
      exact ⟨fun still => absurd stopped still,
        kept_actEach moved who (kept_roomy limit start) s.sessions [] j h.roomy⟩
    · rw [eq]
      exact h

/-! ## 4. The books of a run -/

theorem registered_performAll (h : Registered start arrived notices s j.tally)
    (run : List (SessionContext × Happening)) :
    Registered start (arrived ++ arrivals run) (notices ++ (performAll s j run).1)
      (performAll s j run).2.1 (performAll s j run).2.2.tally := by
  induction run generalizing s j arrived notices with
  | nil =>
    show Registered start (arrived ++ []) (notices ++ []) s j.tally
    rw [List.append_nil, List.append_nil]
    exact h
  | cons first rest ih =>
    obtain ⟨ctx, happening⟩ := first
    have entered : Registered start (arrived ++ happening.arrival?.toList)
        (notices ++ (perform ctx s j happening).1) (perform ctx s j happening).2.1
        (perform ctx s j happening).2.2.tally := registered_perform h happening
    have after := ih entered
    have came : arrivals ((ctx, happening) :: rest) =
        happening.arrival?.toList ++ arrivals rest := by
      unfold arrivals
      rw [List.filterMap_cons]
      cases happening.arrival? <;> rfl
    rw [List.append_assoc, List.append_assoc, ← came] at after
    exact after

theorem counted_performAll (bounded : 0 < limit)
    (sound : Sound limit policy s.sessions.length s.loop) (h : Counted limit start s j.tally)
    (run : List (SessionContext × Happening)) :
    Counted limit start (performAll s j run).2.1 (performAll s j run).2.2.tally := by
  induction run generalizing s j with
  | nil => exact h
  | cons first rest ih =>
    obtain ⟨ctx, happening⟩ := first
    exact ih (sound_perform bounded sound happening) (counted_perform bounded sound h happening)

/-- **The books of a server with a limit, after any run.** The permits that are free, those of the
sessions and the one that the loop may hold make up the limit, so there are never more sessions; if
there is none, and the loop holds no permit, all are free. What was opened and not closed since the
start is within the limit. The loop decides about connections in the order in which they come, and
each of them is either rejected and counted so, or gets a session with a number of its own, which is
still there or has left. -/
theorem permits_conserved (server : String) (framing : Framing) (isSecure : Bool)
    (settings : ServerSettings) (bounded : 0 < settings.maxActiveSessions) (start : Journal)
    (run : List (SessionContext × Happening)) :
    let after := performAll (begun server framing isSecure settings) start run
    let s := after.2.1
    let counts := after.2.2.counts
    (∃ free, s.loop.admission.available? = some free ∧
        free + s.sessions.length + s.loop.ownPermits = settings.maxActiveSessions) ∧
      s.loop.ownPermits ≤ 1 ∧
      s.sessions.length ≤ settings.maxActiveSessions ∧
      (s.sessions = [] → s.loop.ownPermits = 0 →
        s.loop.admission.available? = some settings.maxActiveSessions) ∧
      counts.opened + start.counts.closed ≤
        start.counts.opened + counts.closed + settings.maxActiveSessions ∧
      judged after.1 <+: arrivals run ∧
      (s.loop.stage ≠ .stopped → arrivals run = judged after.1 ++ s.queue) ∧
      (judged after.1).length = rejections after.1 + (admissions after.1).length ∧
      counts.rejected = start.counts.rejected + rejections after.1 ∧
      (admissions after.1).Perm (seats s.sessions ++ departures after.1) ∧
      (admissions after.1).map (·.2.id) = List.range' 1 (admissions after.1).length := by
  intro after s counts
  have first := sound_begun server framing isSecure settings bounded
  have sound : Sound settings.maxActiveSessions settings.overflow s.sessions.length s.loop :=
    sound_performAll (s := begun server framing isSecure settings) bounded first run
  have fresh : Registered start.tally [] [] (begun server framing isSecure settings) start.tally :=
    ⟨List.prefix_rfl, fun _ => rfl, rfl, List.Perm.refl _, rfl, rfl⟩
  have registered : Registered start.tally (arrivals run) after.1 s after.2.2.tally :=
    registered_performAll (s := begun server framing isSecure settings) fresh run
  have even : Even start.tally (standings []) start.tally := rfl
  have counted : Counted settings.maxActiveSessions start.tally s after.2.2.tally :=
    counted_performAll (s := begun server framing isSecure settings) bounded first
      ⟨fun _ => even, even.roomy (Nat.zero_le _)⟩ run
  have limit_eq := sound.limit_eq
  have held := sound.held
  obtain ⟨free, available, all⟩ := Admission.available?_of_bounded (limit_eq ▸ bounded)
    (limit_eq ▸ sound.within)
  have total : free + s.sessions.length + s.loop.ownPermits = settings.maxActiveSessions := by
    rw [← limit_eq, ← all, held, Nat.add_assoc]
  have roomy := counted.roomy
  unfold Roomy at roomy
  refine ⟨⟨free, available, total⟩, s.loop.ownPermits_le_one, by omega, fun none_left nothing => ?_,
    Nat.le_trans (Nat.le_add_right _ _) roomy, registered.judged, registered.queued,
    length_judged after.1, registered.rejected, registered.seats, registered.numbers⟩
  rw [available, ← total, none_left, nothing]
  rfl

/-- A connection over TLS is admitted and cannot be made secure. Its permit goes to the loop, which
waits for one, and comes back when the loop stops. -/
theorem permits_conserved_of_failed_handshake :
    let settings : ServerSettings := { maxActiveSessions := 1, overflow := .block }
    let ctx : SessionContext := ⟨[], .utf8, none, .zero⟩
    let run : List (SessionContext × Happening) :=
      [(ctx, .arrives ⟨0, "x"⟩), (ctx, .accepts), (ctx, .acts (· == 0) .unsecured),
        (ctx, .collects)]
    let begin := begun "s" (.make [10] 8192) true settings
    (performAll begin {} run).2.1.loop.ownPermits = 1 ∧
      (performAll begin {} run).2.1.loop.admission.available? = some 0 ∧
      (performAll begin {} (run ++ [(ctx, .stops)])).2.1.loop.admission.available? = some 1 ∧
      departures (performAll begin {} run).1 = [(0, ⟨1, "s", "x"⟩)] := by
  intro settings ctx run begin
  have books := permits_conserved "s" (.make [10] 8192) true settings (by decide) {}
    (run ++ [(ctx, .stops)])
  exact ⟨rfl, rfl, books.2.2.2.1 rfl rfl, rfl⟩

end Syslog.Streams
