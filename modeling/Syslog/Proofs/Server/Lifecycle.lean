import Syslog.Proofs.Server.Conservation
import Syslog.Server

/-!
# The life of a server

A server is started and shut down, perhaps many times, and in between all kinds of things happen
around it. What it serves is a run of streams or of datagrams, and when it has stopped nothing is
left of that.

* `Operation`, `performAll`: what is done with a server, and a run of it;
* `Service.standings`, `Settled`: how far the sessions of a server have been counted, and that what
  was opened was closed, or is open, or hangs in its opening;
* `Starting`, `starting_start`: the six ways in which a start goes;
* `Sane`, `sane_performAll`: what holds of a server at any time;
* `active_of_stopped`: a server that has stopped has closed what it opened, but for the sessions
  whose opening has not returned.
-/

namespace Syslog

/-! ## 1. What was opened -/

/-- What was opened was closed, or is open, or hangs in its opening. -/
def Settled (l : List Standing) (t : Tally) : Prop := t.opened = t.closed + t.hung + l.count .opened

theorem kept_settled (final : Bool) : Streams.Kept final Settled := by
  intro front back st t st' t' moves before
  unfold Settled at before ⊢
  rw [Streams.count_standing] at before ⊢
  cases moves with
  | stays => exact before
  | opens | hangs | closes | drops | forgets =>
    simp only [reduceCtorEq, if_true, if_false] at before ⊢
    omega

namespace Streams

variable {ctx : SessionContext} {s s' : Streams} {j j' : Journal}

theorem settled_perform (h : Settled (standings s.sessions) j.tally) (happening : Happening) :
    Settled (standings (perform ctx s j happening).2.1.sessions)
      (perform ctx s j happening).2.2.tally := by
  cases happening with
  | arrives a => exact h
  | accepts =>
    have accepted := accepted_acceptNext ctx s j
    simp only [perform]
    generalize acceptNext ctx s j = after at accepted ⊢
    cases accepted with
    | nobody => exact h
    | admits queue answer moved =>
      have unopened : Settled (standings s.sessions ++ [.unopened]) j.tally := by
        unfold Settled at h ⊢
        rw [count_standing, List.append_nil]
        exact h
      exact (kept_settled false).seated moved unopened
    | rejects queue answer => exact h
  | fails =>
    show Settled (standings (s.fail j).1.sessions) (s.fail j).2.tally
    unfold fail
    cases s.loop.fail? with
    | none => exact h
    | some loop => exact h
  | waits time => exact h
  | acts who act =>
    have moved : ∀ session j, Session.Moved true session j (act.act ctx session j) :=
      fun session j => Session.moved_act act session j
    exact kept_actEach moved who (kept_settled true) s.sessions [] j h
  | collects =>
    show j.tally.opened = j.tally.closed + j.tally.hung +
      (standings s.collect.sessions).count .opened
    rw [count_standings_collect s (by decide)]
    exact h
  | stops => exact h
  | quits who =>
    have moved : ∀ session j, Session.Moved true session j (quit ctx session j) :=
      fun _ _ => Session.moved_quit
    rcases perform_quits ctx s j who with ⟨-, eq⟩ | ⟨-, eq⟩
    · rw [eq]
      exact kept_actEach moved who (kept_settled true) s.sessions [] j h
    · rw [eq]
      exact h

/-- **Whatever happens to a server of streams, what was opened was closed, or is open, or hangs.**
-/
theorem Reaches.settled (reaches : Reaches s j (s', j'))
    (h : Settled (standings s.sessions) j.tally) : Settled (standings s'.sessions) j'.tally := by
  obtain ⟨run, eq⟩ := reaches
  induction run generalizing s j with
  | nil =>
    cases eq
    exact h
  | cons first rest ih =>
    obtain ⟨ctx, happening⟩ := first
    exact ih (settled_perform h happening) eq

theorem Reaches.stopped (reaches : Reaches s j (s', j')) (stopped : s.loop.stage = .stopped) :
    s'.loop.stage = .stopped := by
  obtain ⟨run, eq⟩ := reaches
  induction run generalizing s j with
  | nil =>
    cases eq
    exact stopped
  | cons first rest ih =>
    obtain ⟨ctx, happening⟩ := first
    exact ih (stopped_perform stopped happening) eq

end Streams

/-! ## 2. Datagrams -/

namespace Datagrams

variable {ctx : SessionContext} {d : Datagrams} {j : Journal}

/-- The one session of a server of datagrams and the journal move. -/
def Moved (d : Datagrams) (j : Journal) (after : Datagrams × Journal) : Prop :=
  Settled [d.phase.standing] j.tally → Settled [after.1.phase.standing] after.2.tally

theorem moved_of_moves {after : Datagrams × Journal}
    (moves : Moves false d.phase.standing j.tally after.1.phase.standing after.2.tally) :
    Moved d j after := fun before => kept_settled false [] [] _ _ _ _ moves before

theorem moved_settle : Moved d j (d.settle ctx j) := by
  unfold settle
  by_cases greets : d.phase = .greeting
  · rw [if_pos greets]
    have called := j.noteOpened.tally_callAll (.opened d.info) ctx.handlers
    cases calls : j.noteOpened.callAll (.opened d.info) ctx.handlers with
    | mk ended j' =>
      rw [calls, j.tally_noteOpened] at called
      refine moved_of_moves ?_
      rw [greets]
      show Moves false .unopened j.tally (SessionPhase.standing (if ended then _ else _)) j'.tally
      rw [called]
      cases ended with
      | true => exact .opens
      | false => exact .hangs
  · rw [if_neg greets]
    exact id

/-- Messages that are given leave the tally as it is. -/
theorem tally_deliverEach (ctx : SessionContext) (info : SessionInfo)
    (messages : List (String × Bytes)) (j : Journal) :
    (deliverEach ctx info messages j).2.tally = j.tally := by
  induction messages generalizing j with
  | nil => rfl
  | cons message rest ih =>
    obtain ⟨peer, message⟩ := message
    have first := ctx.tally_deliver { info with peer } message.dropEnd j
    unfold deliverEach
    cases delivered : ctx.deliver { info with peer } message.dropEnd j with
    | mk ended j' =>
      rw [delivered] at first
      cases ended with
      | true => exact (ih j').trans first
      | false => exact first

/-- A loop that reads and gives messages goes on reading, or is stuck. -/
theorem give_cases (ctx : SessionContext) (messages : List (String × Bytes)) (j : Journal)
    (reads : d.phase = .reading) : (d.give ctx messages j).2.tally = j.tally ∧
      ((d.give ctx messages j).1.phase = .reading ∨ (d.give ctx messages j).1.phase = .stuck) := by
  have delivered := tally_deliverEach ctx d.info messages j
  unfold give
  cases delivers : deliverEach ctx d.info messages j with
  | mk ended j' =>
    rw [delivers] at delivered
    cases ended with
    | true => exact ⟨delivered, .inl reads⟩
    | false => exact ⟨delivered, .inr rfl⟩

theorem moved_give {d' : Datagrams} (messages : List (String × Bytes)) (same : d'.phase = d.phase)
    (reads : d.phase = .reading) : Moved d j (d'.give ctx messages j) := by
  obtain ⟨tally, phase⟩ := give_cases ctx messages j (same.trans reads)
  refine moved_of_moves ?_
  rw [tally, reads]
  rcases phase with phase | phase
  · rw [phase]
    exact .stays
  · rw [phase]
    exact .stays

theorem moved_receive (peer : String) (datagram : Bytes) :
    Moved d j (d.receive ctx peer datagram j) := by
  unfold receive
  by_cases reads : d.phase = .reading
  · rw [if_pos reads]
    cases d.joiner with
    | none => exact moved_give _ rfl reads
    | some joiner => exact moved_give _ rfl reads
  · rw [if_neg reads]
    exact id

theorem moved_fail (fault : LinkFault) : Moved d j (d.fail fault j) := by
  unfold fail
  split
  · exact id
  · exact id

theorem moved_pass (time : Time.Duration) : Moved d j (d.pass ctx time j) := by
  unfold pass
  cases d.joiner with
  | none => exact id
  | some joiner =>
    by_cases reads : d.phase = .reading
    · simp only [if_pos reads]
      exact moved_give _ rfl reads
    · simp only [if_neg reads]
      exact id

theorem moved_close (reads : d.phase = .reading) : Moved d j (d.close ctx j) := by
  have called := j.tally_callAll_of_other (c := .closed d.info) ctx.handlers rfl
  unfold close
  cases calls : j.callAll (.closed d.info) ctx.handlers with
  | mk ended j' =>
    rw [calls] at called
    refine moved_of_moves ?_
    rw [reads]
    cases ended with
    | true =>
      show Moves false .opened j.tally .ended j'.noteClosed.tally
      rw [j'.tally_noteClosed, called]
      exact .closes
    | false =>
      show Moves false .opened j.tally .opened j'.tally
      rw [called]
      exact .stays

/-- What is left when the loop ends is given before the session is closed. -/
theorem moved_finish : Moved d j (d.finish ctx j) := by
  have settled : Moved d j (d.settle ctx j) := moved_settle
  unfold finish
  generalize d.settle ctx j = begun at settled ⊢
  obtain ⟨d', j'⟩ := begun
  by_cases reads : d'.phase = .reading
  · have given : ∀ pending joiner, Moved d' j' (give ctx pending { d' with joiner } j') :=
      fun pending _ => moved_give pending rfl reads
    have ends : ∀ pending joiner, Moved d' j'
        (if (give ctx pending { d' with joiner } j').1.phase = .reading then
          (give ctx pending { d' with joiner } j').1.close ctx
            (give ctx pending { d' with joiner } j').2
        else give ctx pending { d' with joiner } j') := by
      intro pending joiner
      by_cases still : (give ctx pending { d' with joiner } j').1.phase = .reading
      · rw [if_pos still]
        exact fun before => moved_close still (given pending joiner before)
      · rw [if_neg still]
        exact given pending joiner
    simp only [if_pos reads]
    exact fun before => ends _ _ (settled before)
  · simp only [if_neg reads]
    exact settled

end Datagrams

/-! ## 3. Runs of a server -/

/-- How far the sessions of a service have been counted. -/
def Service.standings : Service → List Standing
  | streams st => Streams.standings st.sessions
  | datagrams d => [d.phase.standing]

namespace Server

/-- How far the sessions of a server have been counted; a server that serves nothing has none. -/
def standings (s : Server) : List Standing := (s.service.map Service.standings).getD []

/-- What is done with a server, and what happens around it. -/
inductive Operation where
  | start (machine : Machine) (files : Files)
  | settle
  | connect (connection : Nat) (peer : String)
  | failAccept
  | secured (connection : Nat)
  | unsecured (connection : Nat)
  | feed (connection : Nat) (bytes : Bytes)
  | finish (connection : Nat)
  | failRead (connection : Nat) (fault : LinkFault)
  | datagram (peer : String) (bytes : Bytes)
  | failReceive (fault : LinkFault)
  | pass (time : Time.Duration)
  | beginShutdown
  | finishShutdown (files : Files)
  /-- The handlers are others from now on. -/
  | handlers (handlers : HandlerList)

/-- What one operation makes of the server. -/
def perform (s : Server) : Operation → Server
  | .start machine files => (s.start machine files).2.1
  | .settle => s.settle
  | .connect c peer => s.connect c peer
  | .failAccept => s.failAccept
  | .secured c => s.secured c
  | .unsecured c => s.unsecured c
  | .feed c bytes => s.feed c bytes
  | .finish c => s.finish c
  | .failRead c fault => s.failRead c fault
  | .datagram peer bytes => s.datagram peer bytes
  | .failReceive fault => s.failReceive fault
  | .pass time => s.pass time
  | .beginShutdown => s.beginShutdown
  | .finishShutdown files => (s.finishShutdown files).1
  | .handlers handlers => { s with handlers }

/-- Operations, one after the other. -/
def performAll (s : Server) (ops : List Operation) : Server := ops.foldl perform s

/-- The server of streams that the settings give, as it starts. -/
def begun (s : Server) : Streams :=
  Streams.begun s.name s.settings.framing (s.settings.kind == .tls) s.settings

/-- The server serves nothing, and listens nowhere. -/
def Unplaced (s : Server) : Prop := s.service = none ∧ s.address = none ∧ s.socketPath = none

/-- What holds of a server at any time. -/
structure Sane (s : Server) : Prop where
  settled : Settled s.standings s.journal.tally
  /-- A server that has stopped serves nothing. -/
  idle : s.state = .stopped → Unplaced s
  /-- A server that shuts down accepts nothing. -/
  halted : s.state = .shuttingDown → ∀ st, s.service = some (.streams st) → st.loop.stage = .stopped
  /-- What it serves is a run of streams since the last start. -/
  reached : ∀ st, s.service = some (.streams st) →
    ∃ start, Streams.Reaches s.begun start (st, s.journal)

variable {s : Server}

/-- **What happens to streams or datagrams keeps a server sane.** -/
theorem Sane.act (h : Sane s) {onStreams : Streams → Journal → Streams × Journal}
    {onDatagrams : Datagrams → Journal → Datagrams × Journal}
    (streams : ∀ st, s.service = some (.streams st) →
      Streams.Reaches st s.journal (onStreams st s.journal))
    (datagrams : ∀ d, Datagrams.Moved d s.journal (onDatagrams d s.journal)) :
    Sane (s.act onStreams onDatagrams) := by
  have settled := h.settled
  unfold standings at settled
  unfold Server.act
  cases service : s.service with
  | none => exact h
  | some served =>
    rw [service] at settled
    cases served with
    | streams st =>
      have reaches := streams st service
      obtain ⟨start, before⟩ := h.reached st service
      refine ⟨reaches.settled settled, fun stopped => ?_, fun shuts st' same => ?_,
        fun st' same => ?_⟩
      · have nothing := (h.idle stopped).1
        rw [service] at nothing
        cases nothing
      · cases same
        exact reaches.stopped (h.halted shuts st service)
      · cases same
        exact ⟨start, before.trans reaches⟩
    | datagrams d =>
      refine ⟨datagrams d settled, fun stopped => ?_, fun _ _ same => (nomatch same),
        fun _ same => (nomatch same)⟩
      have nothing := (h.idle stopped).1
      rw [service] at nothing
      cases nothing

/-- What the server is once it runs at a place. -/
def runningAt (s : Server) (machine : Machine) (place : Place) (service : Service) : Server :=
  { s with
    journal := (s.journal.callAll (.started s.name) s.handlers.handlers).2
    state := .running
    address := place.address
    socketPath := place.socketPath
    service := some service
    clock := machine.clock }

/-- What the server is after its handlers were told that it starts, if it then does not. -/
def toldOfStart (s : Server) : Server :=
  { s with journal := (s.journal.callAll (.started s.name) s.handlers.handlers).2 }

/-- The ways in which a start goes. -/
inductive Starting (machine : Machine) (files : Files) (s : Server) :
    Except (Breakdown ServerError) Unit × Server × Files → Prop
  | locked (locked : s.isLocked = true) : Starting machine files s (.error .pending, s, files)
  | refused (free : s.isLocked = false) (working : s.state ≠ .stopped) :
      Starting machine files s (.error (.reported (.invalidState s.name s.state)), s, files)
  | failed {e : ServerError} {files' : Files} (free : s.isLocked = false)
      (stopped : s.state = .stopped)
      (listens : s.settings.listen machine files s.name = (.error e, files')) :
      Starting machine files s (.error (.reported e), s, files')
  | stuck {place : Place} {files' : Files} (free : s.isLocked = false)
      (stopped : s.state = .stopped)
      (listens : s.settings.listen machine files s.name = (.ok place, files'))
      (kept : (s.journal.callAll (.started s.name) s.handlers.handlers).1 = false) :
      Starting machine files s
        (.error .pending, { s.toldOfStart with stuckStarting := true }, files')
  | broke {place : Place} {files' : Files} (free : s.isLocked = false)
      (stopped : s.state = .stopped)
      (listens : s.settings.listen machine files s.name = (.ok place, files'))
      (ended : (s.journal.callAll (.started s.name) s.handlers.handlers).1 = true)
      (serves : s.serve? place = none) :
      Starting machine files s (.error .brokenOff, s.toldOfStart, files')
  | runs {place : Place} {files' : Files} {service : Service} (free : s.isLocked = false)
      (stopped : s.state = .stopped)
      (listens : s.settings.listen machine files s.name = (.ok place, files'))
      (ended : (s.journal.callAll (.started s.name) s.handlers.handlers).1 = true)
      (serves : s.serve? place = some service) :
      Starting machine files s (.ok (), s.runningAt machine place service, files')

/-- **A start goes in one of these ways.** -/
theorem starting_start (machine : Machine) (files : Files) (s : Server) :
    Starting machine files s (s.start machine files) := by
  unfold start
  cases free : s.isLocked with
  | true => exact .locked free
  | false =>
    rw [if_neg Bool.false_ne_true]
    by_cases stopped : s.state = .stopped
    · rw [if_neg (not_not_intro stopped)]
      split
      · exact .failed free stopped ‹_›
      · rename_i listens
        dsimp only
        split
        · rename_i kept
          exact .stuck free stopped listens ((Bool.not_eq_eq_eq_not ..).1 kept)
        · rename_i kept
          have ended := (Bool.not_not_eq ..).1 kept
          split
          · exact .broke free stopped listens ended ‹_›
          · exact .runs free stopped listens ended ‹_›
    · rw [if_pos stopped]
      exact .refused free stopped

/-- A service begins with no session that has been counted. -/
theorem serve?_cases {place : Place} {service : Service} (serves : s.serve? place = some service) :
    (∃ d, service = .datagrams d ∧ d.phase = .greeting) ∨ service = .streams s.begun := by
  unfold serve? at serves
  split at serves
  · cases serves
    exact .inl ⟨_, rfl, rfl⟩
  · unfold AcceptLoop.ofSettings? Admission.ofSettings? at serves
    split at serves
    · cases serves
      exact .inr rfl
    · cases serves

/-- Telling the handlers of a start changes nothing that is counted of sessions. -/
theorem Sane.toldOfStart (h : Sane s) (stopped : s.state = .stopped) : Sane s.toldOfStart := by
  have nothing := (h.idle stopped).1
  have told := s.journal.tally_callAll_of_other (c := .started s.name) s.handlers.handlers rfl
  have settled := h.settled
  rw [← told] at settled
  refine ⟨settled, h.idle, h.halted, fun st same => ?_⟩
  have served : s.service = some (.streams st) := same
  rw [nothing] at served
  cases served

theorem Sane.runningAt (h : Sane s) (stopped : s.state = .stopped) (machine : Machine)
    {place : Place} {service : Service} (serves : s.serve? place = some service) :
    Sane (s.runningAt machine place service) := by
  have nothing := (h.idle stopped).1
  have told := (h.toldOfStart stopped).settled
  unfold standings Server.toldOfStart at told
  rw [nothing] at told
  have begins := serve?_cases serves
  have uncounted : Settled service.standings
      (s.journal.callAll (.started s.name) s.handlers.handlers).2.tally := by
    rcases begins with ⟨d, rfl, greets⟩ | rfl
    · show Settled [d.phase.standing] _
      rw [greets]
      exact told
    · exact told
  refine ⟨uncounted, fun still => (nomatch still), fun shuts => (nomatch shuts), fun st same => ?_⟩
  have served : service = .streams st := Option.some.inj same
  rcases begins with ⟨d, rfl, -⟩ | rfl
  · cases served
  · cases served
    exact ⟨_, Streams.reaches_refl⟩

/-- **However a start goes, the server stays sane.** -/
theorem Sane.start (h : Sane s) (machine : Machine) (files : Files) :
    Sane (s.start machine files).2.1 := by
  have starting := starting_start machine files s
  generalize s.start machine files = outcome at starting ⊢
  cases starting with
  | locked | refused | failed => exact h
  | stuck _ stopped =>
    exact { h.toldOfStart stopped with }
  | broke _ stopped => exact h.toldOfStart stopped
  | runs _ stopped _ _ serves => exact h.runningAt stopped machine serves

@[simp] theorem state_act (s : Server) (onStreams : Streams → Journal → Streams × Journal)
    (onDatagrams : Datagrams → Journal → Datagrams × Journal) :
    (s.act onStreams onDatagrams).state = s.state := by
  unfold Server.act
  split <;> rfl

/-- Ended by force, all sessions have ended. -/
theorem ended_actEach (ctx : SessionContext) (sessions : List (Nat × Session)) (j : Journal) :
    ∀ entry ∈ (Streams.actEach (fun _ => true) (Streams.quit ctx) sessions j).1,
      entry.2.phase = .ended := by
  induction sessions generalizing j with
  | nil => exact fun _ none_left => (nomatch none_left)
  | cons first rest ih =>
    obtain ⟨c, session⟩ := first
    intro entry member
    rcases List.mem_cons.1 member with rfl | later
    · exact Session.ended_quit session j
    · exact ih _ entry later

/-- Sessions that are ended by force leave. -/
theorem sessions_endAll (ctx : SessionContext) (st : Streams) (j : Journal) :
    (st.endAll ctx j).1.sessions = [] := by
  show (Streams.collect _).sessions = []
  rw [Streams.collect_eq]
  refine List.filter_eq_nil_iff.2 fun entry member => ?_
  rw [ended_actEach ctx st.sessions j entry member]
  decide

theorem Sane.secured (h : Sane s) (connection : Nat) : Sane (s.secured connection) := by
  have opened :
      Sane (s.actOnStreams (Streams.actOn s.context connection (Streams.secured s.context))) :=
    h.act (fun _ _ => Streams.reaches_actOn connection .secured) fun _ => id
  unfold Server.secured
  dsimp only
  split
  · exact opened.act (fun _ _ => Streams.reaches_actOn connection (.drained _)) fun _ => id
  · exact opened

/-- A server that can stop has no session left. -/
theorem count_standings_endAll (can : s.canStop = true) :
    (s.act (Streams.endAll s.context) Prod.mk).standings.count .opened = 0 := by
  unfold canStop at can
  unfold Server.act standings
  cases service : s.service with
  | none => rw [service]; rfl
  | some served =>
    rw [service] at can
    cases served with
    | streams st =>
      show (Streams.standings (st.endAll s.context s.journal).1.sessions).count .opened = 0
      rw [sessions_endAll]
      rfl
    | datagrams d =>
      show [d.phase.standing].count .opened = 0
      rw [eq_of_beq can]
      rfl

/-- What the server is once nothing is left of what it served, before its handlers have returned
from being told that it has stopped. -/
def vacated (s : Server) : Server :=
  { s with
    journal := (s.journal.callAll (.stopped s.name) s.handlers.handlers).2
    service := none
    socketPath := none }

/-- The server as it has stopped. -/
def atRest (s : Server) : Server := { s.vacated with state := .stopped, address := none }

/-- The ways in which a shutdown comes to its end. -/
inductive Stopping (files : Files) (s : Server) : Server × Files → Prop
  | waits (working : ¬ (s.state = .shuttingDown ∧ s.canStop = true)) : Stopping files s (s, files)
  | stuck {s' : Server} (shuts : s.state = .shuttingDown) (can : s.canStop = true)
      (ended : s.act (Streams.endAll s.context) Prod.mk = s')
      (kept : (s'.journal.callAll (.stopped s'.name) s'.handlers.handlers).1 = false) :
      Stopping files s (s'.vacated, s'.clear files)
  | stops {s' : Server} (shuts : s.state = .shuttingDown) (can : s.canStop = true)
      (ended : s.act (Streams.endAll s.context) Prod.mk = s')
      (told : (s'.journal.callAll (.stopped s'.name) s'.handlers.handlers).1 = true) :
      Stopping files s (s'.atRest, s'.clear files)

theorem stopping_finishShutdown (files : Files) (s : Server) :
    Stopping files s (s.finishShutdown files) := by
  unfold Server.finishShutdown
  by_cases can_stop : s.state = .shuttingDown ∧ s.canStop = true
  · rw [if_pos can_stop]
    generalize left : s.act (Streams.endAll s.context) Prod.mk = s'
    dsimp only
    split
    · exact .stops can_stop.1 can_stop.2 left ‹_›
    · exact .stuck can_stop.1 can_stop.2 left (Bool.eq_false_iff.2 ‹_›)
  · rw [if_neg can_stop]
    exact .waits can_stop

theorem Sane.finishShutdown (h : Sane s) (files : Files) : Sane (s.finishShutdown files).1 := by
  have ends : s.state = .shuttingDown → s.canStop = true →
      Settled [] (s.act (Streams.endAll s.context) Prod.mk).vacated.journal.tally := by
    intro shuts can
    have ended : Sane (s.act (Streams.endAll s.context) Prod.mk) :=
      h.act (fun st same => Streams.reaches_endAll (h.halted shuts st same)) fun _ => id
    have nothing := count_standings_endAll can
    have settled := ended.settled
    generalize s.act (Streams.endAll s.context) Prod.mk = s' at settled nothing ⊢
    unfold Settled at settled
    rw [nothing, ← s'.journal.tally_callAll_of_other (c := .stopped s'.name) s'.handlers.handlers rfl]
      at settled
    exact settled
  have stopping := stopping_finishShutdown files s
  generalize s.finishShutdown files = after at stopping ⊢
  cases stopping with
  | waits => exact h
  | stuck shuts can ended =>
    subst ended
    have state : (s.act (Streams.endAll s.context) Prod.mk).state = .shuttingDown :=
      (state_act ..).trans shuts
    refine ⟨ends shuts can, fun stopped => ?_, fun _ _ same => (nomatch same),
      fun _ same => (nomatch same)⟩
    exact absurd (state.symm.trans stopped) nofun
  | stops shuts can ended =>
    subst ended
    exact ⟨ends shuts can, fun _ => ⟨rfl, rfl, rfl⟩, fun shuts => (nomatch shuts),
      fun _ same => (nomatch same)⟩

/-- The state does not matter to what is served. -/
theorem act_state (s : Server) (state : ServerState)
    (onStreams : Streams → Journal → Streams × Journal)
    (onDatagrams : Datagrams → Journal → Datagrams × Journal) :
    { s with state }.act onStreams onDatagrams = { s.act onStreams onDatagrams with state } := by
  obtain ⟨_, _, _, _, _, _, _, service, _, _⟩ := s
  cases service with
  | none => rfl
  | some served => cases served <;> rfl

/-- The loop stops when the server begins to shut down. -/
theorem stopped_drain (ctx : SessionContext) (wait : Time.Duration) (st : Streams) (j : Journal) :
    (st.drain ctx wait j).1.loop.stage = .stopped := by
  have reaches : Streams.Reaches { st with loop := st.loop.stop, queue := [] } j
      (st.drain ctx wait j) := Streams.reaches_act (fun _ => true) (.drained wait)
  exact reaches.stopped rfl

theorem Sane.beginShutdown (h : Sane s) : Sane s.beginShutdown := by
  unfold Server.beginShutdown
  by_cases runs : s.state = .running
  · have drained :
        Sane (s.act (Streams.drain s.context s.drainWait) (Datagrams.finish s.context)) :=
      h.act (fun _ _ => Streams.reaches_drain _) fun _ => Datagrams.moved_finish
    rw [if_pos runs, act_state]
    refine ⟨drained.settled, fun stopped => (nomatch stopped), fun _ st same => ?_, drained.reached⟩
    unfold Server.act at same
    cases service : s.service with
    | none =>
      simp only [service] at same
      cases same
    | some served =>
      cases served with
      | streams st' =>
        simp only [service] at same
        cases same
        exact stopped_drain _ _ st' _
      | datagrams d =>
        simp only [service] at same
        cases same
  · rw [if_neg runs]
    exact h

/-- **No operation makes a server insane.** -/
theorem sane_perform (h : Sane s) (op : Operation) : Sane (s.perform op) := by
  have unmoved : ∀ d, Datagrams.Moved d s.journal (d, s.journal) := fun _ => id
  cases op with
  | start machine files => exact h.start machine files
  | settle => exact h.act (fun _ _ => Streams.reaches_refl) fun _ => Datagrams.moved_settle
  | connect c peer => exact h.act (fun _ _ => Streams.reaches_arrive _) unmoved
  | failAccept => exact h.act (fun _ _ => Streams.reaches_fail s.context) unmoved
  | secured c => exact h.secured c
  | unsecured c =>
    exact h.act (fun _ _ => Streams.reaches_actOn c .unsecured) unmoved
  | feed c bytes => exact h.act (fun _ _ => Streams.reaches_actOn c (.fed bytes)) unmoved
  | finish c => exact h.act (fun _ _ => Streams.reaches_actOn c .finished) unmoved
  | failRead c fault =>
    exact h.act (fun _ _ => Streams.reaches_actOn c (.failed fault)) unmoved
  | datagram peer bytes =>
    exact h.act (fun _ _ => Streams.reaches_refl) fun _ => Datagrams.moved_receive peer bytes
  | failReceive fault =>
    exact h.act (fun _ _ => Streams.reaches_refl) fun _ => Datagrams.moved_fail fault
  | pass time =>
    exact { h.act (fun _ _ => Streams.reaches_pass time) fun _ => Datagrams.moved_pass time with }
  | beginShutdown => exact h.beginShutdown
  | finishShutdown files => exact h.finishShutdown files
  | handlers handlers => exact { h with }

theorem sane_performAll (h : Sane s) (ops : List Operation) : Sane (s.performAll ops) := by
  induction ops generalizing s with
  | nil => exact h
  | cons op rest ih => exact ih (sane_perform h op)

/-- A server that was never started is sane. -/
theorem sane_new (name : String) (settings : ServerSettings) (handlers : HandlerList) :
    Sane { name, settings, handlers } :=
  ⟨rfl, fun _ => ⟨rfl, rfl, rfl⟩, fun shuts => (nomatch shuts), fun _ same => (nomatch same)⟩

/-! ## 4. Stopped servers -/

/-- **What a server that has stopped has counted, after any run.** It serves nothing any more, and
every session that it counted as opened was counted as closed, but for those of which a handler has
not returned from being told that they open: as many as that are active for ever. -/
theorem active_of_stopped (name : String) (settings : ServerSettings) (handlers : HandlerList)
    (ops : List Operation) :
    let s := performAll { name, settings, handlers } ops
    let hung := s.journal.calls.countP CallRecord.isHungOpening
    s.state = .stopped →
      s.service = none ∧ s.journal.counts.opened = s.journal.counts.closed + hung ∧
        s.journal.counts.active = hung := by
  intro s hung stopped
  have sane : Sane s := sane_performAll (sane_new name settings handlers) ops
  have nothing := (sane.idle stopped).1
  have settled := sane.settled
  unfold standings at settled
  rw [nothing] at settled
  have opened : s.journal.counts.opened = s.journal.counts.closed + hung := settled
  refine ⟨nothing, opened, ?_⟩
  unfold ServerCounts.active
  rw [opened, Nat.add_sub_cancel_left]

/-- A machine on which everything is found. -/
def plainMachine : Machine := { certificates := fun _ => .ok 1, privateKey := fun _ => .ok () }

/-- A connection comes to a server whose handler does not return from being told so, and the server
is shut down. The session is ended by force, and active for ever. -/
example :
    let s : Server := performAll
      { name := "srv"
        settings := { kind := .unix, socketType := .stream, path := "s" }
        handlers := ⟨[{
          name := "slow"
          conduct
            | _, .opened _ => .hangs
            | _, _ => .returns }]⟩ }
      [.start plainMachine {}, .connect 0 "", .beginShutdown, .finishShutdown {}]
    s.state = .stopped ∧ s.journal.counts.opened = 1 ∧ s.journal.counts.active = 1 := by
  decide +kernel

end Server

end Syslog
