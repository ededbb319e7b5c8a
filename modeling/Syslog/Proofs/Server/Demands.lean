import Syslog.Proofs.Server.Lifecycle
import Syslog.Proofs.Server.Listening
import Syslog.Proofs.Server.Turns

/-!
# What is asked of a server

A server is asked to start and to shut down, in any order and however often, while all kinds of
things happen around it. It does what it is asked only if it is not done already, and its handlers
are told of starts and stops by turns. If it would have more permits than can be counted it never
runs.

* `Prompt`: the handlers return from the calls that starting and stopping wait for;
* `Same`, `same_perform`: what happens around a server leaves its state as it is, and tells nobody of
  a start or a stop;
* `Steady`, `Winding`: servers that stand still or run, and servers that shut down;
  `Steady.runningAt`, `Steady.beginShutdown` and `Winding.finishShutdown` lead from one to the other;
* `isCountable`, `Attempt`, `Steady.attempt`: the four ways in which a start goes that no handler
  keeps from ending;
* `Demand`, `demandAll`, `Alternates`: a run of demands, and what holds after it.
-/

namespace Syslog.Server

variable {s s' s'' : Server}

/-! ## 1. What happens around a server -/

/-- Is the operation something that happens around the server? -/
def Operation.isTraffic : Operation → Bool
  | .start .. | .beginShutdown | .finishShutdown _ | .handlers _ => false
  | _ => true

/-- Is the operation a datagram that comes? -/
def Operation.isDatagram : Operation → Bool
  | .datagram .. => true
  | _ => false

/-- The handlers return from the calls that the server waits for when it starts and stops. Over
datagrams it also waits for the end of the loop. -/
structure Prompt (s : Server) : Prop where
  starting : Ending s.handlers.handlers (.started s.name)
  stopping : Ending s.handlers.handlers (.stopped s.name)
  datagrams : s.settings.isDatagram = true → Hosting s.handlers.handlers

/-- It is the same server, perhaps in another state. -/
structure Kin (s s' : Server) : Prop where
  name : s'.name = s.name
  settings : s'.settings = s.settings
  handlers : s'.handlers = s.handlers

theorem Kin.refl (s : Server) : Kin s s := ⟨rfl, rfl, rfl⟩

theorem Kin.trans (first : Kin s s') (second : Kin s' s'') : Kin s s'' :=
  ⟨second.name.trans first.name, second.settings.trans first.settings,
    second.handlers.trans first.handlers⟩

theorem Kin.prompt (kin : Kin s s') (prompt : s.Prompt) : s'.Prompt := by
  refine ⟨?_, ?_, ?_⟩
  · rw [kin.handlers, kin.name]
    exact prompt.starting
  · rw [kin.handlers, kin.name]
    exact prompt.stopping
  · rw [kin.handlers, kin.settings]
    exact prompt.datagrams

/-- Nobody is told of a start or a stop, and the server stays in its state. -/
structure Quiet (s s' : Server) : Prop extends Kin s s' where
  state : s'.state = s.state
  address : s'.address = s.address
  socketPath : s'.socketPath = s.socketPath
  stuckStarting : s'.stuckStarting = s.stuckStarting
  turns : s'.journal.turns = s.journal.turns

theorem Quiet.trans (first : Quiet s s') (second : Quiet s' s'') : Quiet s s'' :=
  ⟨first.toKin.trans second.toKin, second.state.trans first.state,
    second.address.trans first.address, second.socketPath.trans first.socketPath,
    second.stuckStarting.trans first.stuckStarting, second.turns.trans first.turns⟩

theorem Quiet.isLocked (quiet : Quiet s s') : s'.isLocked = s.isLocked := by
  unfold Server.isLocked
  rw [quiet.stuckStarting, quiet.state]

/-- What is served goes on. -/
inductive Goes (handlers : List EventHandler) : Option Service → Option Service → Prop
  | idle : Goes handlers none none
  | streams {st st' : Streams} : Goes handlers (some (.streams st)) (some (.streams st'))
  | datagrams {d d' : Datagrams} (flows : Datagrams.Flows handlers d d') :
      Goes handlers (some (.datagrams d)) (some (.datagrams d'))

section Goes

variable {handlers : List EventHandler} {a b c : Option Service}

theorem Goes.refl : (service : Option Service) → Goes handlers service service
  | none => .idle
  | some (.streams _) => .streams
  | some (.datagrams d) => .datagrams (.refl d)

theorem Goes.trans (first : Goes handlers a b) (second : Goes handlers b c) :
    Goes handlers a c := by
  cases first with
  | idle => exact second
  | streams =>
    cases second with
    | streams => exact .streams
  | datagrams flows =>
    cases second with
    | datagrams flows' => exact .datagrams (flows.trans flows')

theorem Goes.eq_none (goes : Goes handlers none b) : b = none := by
  cases goes
  rfl

theorem Goes.isSome (goes : Goes handlers a b) : b.isSome = a.isSome := by
  cases goes <;> rfl

theorem Goes.of_datagrams {d' : Datagrams} (goes : Goes handlers a (some (.datagrams d'))) :
    ∃ d, a = some (.datagrams d) ∧ Datagrams.Flows handlers d d' := by
  cases goes with
  | datagrams flows => exact ⟨_, rfl, flows⟩

end Goes

/-- A server stays as it stands, and what it serves goes on. -/
structure Same (s s' : Server) : Prop extends Quiet s s' where
  goes : Goes s.handlers.handlers s.service s'.service

theorem Same.trans (first : Same s s') (second : Same s' s'') : Same s s'' :=
  ⟨first.toQuiet.trans second.toQuiet, first.goes.trans (first.handlers ▸ second.goes)⟩

section Act

variable {onStreams : Streams → Journal → Streams × Journal}
  {onDatagrams : Datagrams → Journal → Datagrams × Journal}

/-- What nobody is told of as a start or a stop leaves the server in its state. -/
theorem quiet_act (streams : ∀ st, (onStreams st s.journal).2.turns = s.journal.turns)
    (datagrams : ∀ d, (onDatagrams d s.journal).2.turns = s.journal.turns) :
    Quiet s (s.act onStreams onDatagrams) := by
  unfold act
  split
  · exact ⟨⟨rfl, rfl, rfl⟩, rfl, rfl, rfl, rfl, streams _⟩
  · exact ⟨⟨rfl, rfl, rfl⟩, rfl, rfl, rfl, rfl, datagrams _⟩
  · exact ⟨⟨rfl, rfl, rfl⟩, rfl, rfl, rfl, rfl, rfl⟩

theorem datagrams_act {d' : Datagrams}
    (there : (s.act onStreams onDatagrams).service = some (.datagrams d')) :
    ∃ d, s.service = some (.datagrams d) ∧ d' = (onDatagrams d s.journal).1 := by
  unfold act at there
  split at there
  · cases there
  · rename_i d here
    exact ⟨d, here, (Service.datagrams.inj (Option.some.inj there)).symm⟩
  · rename_i here
    rw [here] at there
    cases there

theorem goes_act
    (flows : ∀ d, s.service = some (.datagrams d) →
      Datagrams.Flows s.handlers.handlers d (onDatagrams d s.journal).1) :
    Goes s.handlers.handlers s.service (s.act onStreams onDatagrams).service := by
  unfold act
  split
  · rename_i st here
    rw [here]
    exact .streams
  · rename_i d here
    rw [here]
    exact .datagrams (flows d here)
  · exact .refl _

theorem isSome_service_act (s : Server) (onStreams : Streams → Journal → Streams × Journal)
    (onDatagrams : Datagrams → Journal → Datagrams × Journal) :
    (s.act onStreams onDatagrams).service.isSome = s.service.isSome := by
  unfold act
  split
  · rename_i here
    rw [here]
    rfl
  · rename_i here
    rw [here]
    rfl
  · rfl

theorem act_of_none (nothing : s.service = none) : s.act onStreams onDatagrams = s := by
  unfold act
  rw [nothing]

end Act

/-- What happens to streams only leaves datagrams as they are. -/
theorem same_actOnStreams {f : Streams → Journal → Streams × Journal}
    (streams : ∀ st, Streams.Reaches st s.journal (f st s.journal)) :
    Same s (s.actOnStreams f) :=
  ⟨quiet_act (fun st => (streams st).turns) fun _ => rfl,
    goes_act fun d _ => .refl d⟩

/-- What happens to datagrams only leaves streams as they are. -/
theorem same_actOnDatagrams {f : Datagrams → Journal → Datagrams × Journal}
    (turns : ∀ d, (f d s.journal).2.turns = s.journal.turns)
    (flows : ∀ d, s.service = some (.datagrams d) →
      Datagrams.Flows s.handlers.handlers d (f d s.journal).1) : Same s (s.act Prod.mk f) :=
  ⟨quiet_act (fun _ => rfl) turns, goes_act flows⟩

/-- **What happens around a server leaves it as it stands.** Where a loop reads datagrams, its
handlers return from all other calls, and if one comes they return from events too. -/
theorem same_perform
    (hosting : ∀ d, s.service = some (.datagrams d) → Hosting s.handlers.handlers)
    {op : Operation} (traffic : op.isTraffic = true)
    (takes : op.isDatagram = true → ∀ d, s.service = some (.datagrams d) →
      Taking s.handlers.handlers ∨ d.phase = .ended) : Same s (s.perform op) := by
  cases op with
  | settle =>
    exact same_actOnDatagrams (fun d => (Datagrams.speaks_settle s.context d s.journal).turns)
      fun d here => Datagrams.flows_settle s.context (hosting d here) d s.journal
  | connect c peer => exact same_actOnStreams fun _ => Streams.reaches_arrive _
  | failAccept => exact same_actOnStreams fun _ => Streams.reaches_fail s.context
  | secured c =>
    have opened :
        Same s (s.actOnStreams (Streams.actOn s.context c (Streams.secured s.context))) :=
      same_actOnStreams fun _ => Streams.reaches_actOn c .secured
    show Same s (s.secured c)
    unfold secured
    dsimp only
    split
    · exact opened.trans (same_actOnStreams fun _ => Streams.reaches_actOn c (.drained _))
    · exact opened
  | unsecured c => exact same_actOnStreams fun _ => Streams.reaches_actOn c .unsecured
  | feed c bytes => exact same_actOnStreams fun _ => Streams.reaches_actOn c (.fed bytes)
  | finish c => exact same_actOnStreams fun _ => Streams.reaches_actOn c .finished
  | failRead c fault => exact same_actOnStreams fun _ => Streams.reaches_actOn c (.failed fault)
  | datagram peer bytes =>
    refine same_actOnDatagrams
      (fun d => (Datagrams.speaks_receive s.context peer bytes d s.journal).turns)
      fun d here => ?_
    rcases takes rfl d here with taking | ended
    · exact Datagrams.flows_receive s.context taking peer bytes d s.journal
    · rw [Datagrams.receive_of_not_reading s.context (by rw [ended]; decide)]
      exact .refl d
  | failReceive fault =>
    exact same_actOnDatagrams (fun d => (Datagrams.speaks_fail fault d s.journal).turns)
      fun d _ => Datagrams.flows_fail s.handlers.handlers fault d s.journal
  | pass time =>
    have streams : ∀ st : Streams, st.Reaches s.journal (st.pass s.context time s.journal) :=
      fun _ => Streams.reaches_pass time
    have quiet : Quiet s (s.act (Streams.pass s.context time) (Datagrams.pass s.context time)) :=
      quiet_act (fun st => (streams st).turns)
        fun d => (Datagrams.speaks_pass s.context time d s.journal).turns
    exact ⟨{ quiet with }, goes_act fun d _ => Datagrams.flows_pass s.context time d s.journal⟩
  | start machine files => cases traffic
  | beginShutdown => cases traffic
  | finishShutdown files => cases traffic
  | handlers handlers => cases traffic

/-! ## 2. From one state to the next -/

/-- The calls of all handlers for one thing. -/
def tells (s : Server) (c : Call) : List (String × Call) :=
  s.handlers.handlers.map fun h => (h.name, c)

/-- A server that has stopped or runs, and whose handlers do not keep it. -/
structure Steady (s : Server) : Prop where
  prompt : s.Prompt
  free : s.isLocked = false
  /-- A server that has stopped serves nothing, and listens nowhere. -/
  idle : s.state = .stopped → Unplaced s
  serving : s.state = .running → s.service.isSome = true
  /-- The loop for datagrams flows. -/
  flowing : ∀ d, s.service = some (.datagrams d) →
    s.settings.isDatagram = true ∧ d.Flowing s.handlers.handlers

/-- A server that shuts down, and is not kept from stopping. -/
structure Winding (s : Server) : Prop where
  prompt : s.Prompt
  started : s.stuckStarting = false
  state : s.state = .shuttingDown
  serving : s.service.isSome = true
  ended : ∀ d, s.service = some (.datagrams d) → s.settings.isDatagram = true ∧ d.phase = .ended

theorem isLocked_eq_false_iff :
    s.isLocked = false ↔ s.stuckStarting = false ∧ s.state ≠ .shuttingDown := by
  unfold isLocked
  rw [Bool.or_eq_false_iff, beq_eq_false_iff_ne]

theorem Steady.same (h : Steady s) (same : Same s s') : Steady s' := by
  refine ⟨same.prompt h.prompt, same.isLocked.trans h.free, fun stopped => ?_,
    fun runs => same.goes.isSome.trans (h.serving (same.state ▸ runs)), fun d' there => ?_⟩
  · obtain ⟨nothing, nowhere, bare⟩ := h.idle (same.state ▸ stopped)
    exact ⟨(nothing ▸ same.goes).eq_none, same.address.trans nowhere, same.socketPath.trans bare⟩
  · obtain ⟨d, here, flows⟩ := (there ▸ same.goes).of_datagrams
    obtain ⟨kind, flowing⟩ := h.flowing d here
    exact ⟨same.settings ▸ kind, same.handlers ▸ flows.flowing flowing⟩

theorem Winding.same (h : Winding s) (same : Same s s') : Winding s' := by
  refine ⟨same.prompt h.prompt, same.stuckStarting.trans h.started, same.state.trans h.state,
    same.goes.isSome.trans h.serving, fun d' there => ?_⟩
  obtain ⟨d, here, flows⟩ := (there ▸ same.goes).of_datagrams
  obtain ⟨kind, ended⟩ := h.ended d here
  exact ⟨same.settings ▸ kind, flows.ended ended⟩

/-- Can as many permits be counted as the server needs? Over datagrams it needs none. -/
def isCountable (s : Server) : Bool :=
  s.settings.isDatagram || Permits.areCountable s.settings.maxActiveSessions

theorem isSome_serve? (s : Server) (place : Place) : (s.serve? place).isSome = s.isCountable := by
  unfold serve? isCountable AcceptLoop.ofSettings? Admission.ofSettings?
  cases s.settings.isDatagram with
  | true => rfl
  | false => cases Permits.areCountable s.settings.maxActiveSessions <;> rfl

/-- How it goes when a server that its handlers do not keep is to start. -/
inductive Attempt (machine : Machine) (files : Files) (s : Server) :
    Except (Breakdown ServerError) Unit × Server × Files → Prop
  | refused (working : s.state = .running) :
      Attempt machine files s (.error (.reported (.invalidState s.name s.state)), s, files)
  | failed {e : ServerError} {files' : Files} (stopped : s.state = .stopped)
      (listens : s.settings.listen machine files s.name = (.error e, files')) :
      Attempt machine files s (.error (.reported e), s, files')
  | broke {place : Place} {files' : Files} (stopped : s.state = .stopped)
      (listens : s.settings.listen machine files s.name = (.ok place, files'))
      (uncountable : s.isCountable = false) :
      Attempt machine files s (.error .brokenOff, s.toldOfStart, files')
  | runs {place : Place} {files' : Files} {service : Service} (stopped : s.state = .stopped)
      (listens : s.settings.listen machine files s.name = (.ok place, files'))
      (countable : s.isCountable = true) (serves : s.serve? place = some service) :
      Attempt machine files s (.ok (), s.runningAt machine place service, files')

/-- **The start of a server that its handlers do not keep comes to an end.** -/
theorem Steady.attempt (h : Steady s) (machine : Machine) (files : Files) :
    Attempt machine files s (s.start machine files) := by
  have starting := starting_start machine files s
  generalize s.start machine files = outcome at starting ⊢
  cases starting with
  | locked locked =>
    rw [h.free] at locked
    cases locked
  | refused free working =>
    refine .refused ?_
    have away := (isLocked_eq_false_iff.1 free).2
    cases state : s.state with
    | stopped => exact absurd state working
    | running => rfl
    | shuttingDown => exact absurd state away
  | failed free stopped listens => exact .failed stopped listens
  | stuck free stopped listens kept =>
    rw [Journal.callAll_ended h.prompt.starting] at kept
    cases kept
  | @broke place _ free stopped listens ended serves =>
    refine .broke stopped listens ?_
    rw [← s.isSome_serve? place, serves]
    rfl
  | @runs place _ _ free stopped listens ended serves =>
    refine .runs stopped listens ?_ serves
    rw [← s.isSome_serve? place, serves]
    rfl

theorem Prompt.turns_callAll_started (h : s.Prompt) :
    (s.journal.callAll (.started s.name) s.handlers.handlers).2.turns =
      s.journal.turns ++ s.tells (.started s.name) :=
  Journal.turns_callAll rfl h.starting s.journal

/-- A start that breaks off is told to the handlers, and nothing else changes. -/
theorem Steady.toldOfStart (h : Steady s) :
    Steady s.toldOfStart ∧ Kin s s.toldOfStart ∧
      s.toldOfStart.journal.turns = s.journal.turns ++ s.tells (.started s.name) := by
  have kin : Kin s s.toldOfStart := ⟨rfl, rfl, rfl⟩
  exact ⟨⟨kin.prompt h.prompt, h.free, h.idle, h.serving, h.flowing⟩, kin,
    h.prompt.turns_callAll_started⟩

/-- **A start**: the handlers are told so. -/
theorem Steady.runningAt (h : Steady s) (machine : Machine) {place : Place} {service : Service}
    (serves : s.serve? place = some service) :
    Steady (s.runningAt machine place service) ∧ Kin s (s.runningAt machine place service) ∧
      (s.runningAt machine place service).journal.turns =
        s.journal.turns ++ s.tells (.started s.name) := by
  have kin : Kin s (s.runningAt machine place service) := ⟨rfl, rfl, rfl⟩
  have free : (s.runningAt machine place service).isLocked = false :=
    isLocked_eq_false_iff.2 ⟨(isLocked_eq_false_iff.1 h.free).1, nofun⟩
  refine ⟨⟨kin.prompt h.prompt, free, nofun, fun _ => rfl, fun d here => ?_⟩, kin,
    h.prompt.turns_callAll_started⟩
  obtain rfl : service = .datagrams d := Option.some.inj here
  unfold serve? at serves
  split at serves
  · rename_i kind
    cases serves
    refine ⟨kind, .inl rfl, .inr fun joiner same => ?_⟩
    dsimp only at same
    split at same
    · obtain rfl := Option.some.inj same
      rfl
    · cases same
  · obtain ⟨loop, -, other⟩ := Option.map_eq_some_iff.1 serves
    cases other

/-- A server that runs accepts no more, and a loop for datagrams ends. -/
theorem Steady.beginShutdown (h : Steady s) (runs : s.state = .running) :
    Winding s.beginShutdown ∧ Kin s s.beginShutdown ∧
      s.beginShutdown.socketPath = s.socketPath ∧
      s.beginShutdown.journal.turns = s.journal.turns := by
  unfold Server.beginShutdown
  rw [if_pos runs, act_state]
  have drains : ∀ st : Streams, st.Reaches s.journal (st.drain s.context s.drainWait s.journal) :=
    fun _ => Streams.reaches_drain _
  have quiet : Quiet s (s.act (Streams.drain s.context s.drainWait) (Datagrams.finish s.context)) :=
    quiet_act (fun st => (drains st).turns)
      fun d => (Datagrams.speaks_finish s.context d s.journal).turns
  have kin : Kin s { s.act (Streams.drain s.context s.drainWait) (Datagrams.finish s.context) with
      state := .shuttingDown } := ⟨quiet.name, quiet.settings, quiet.handlers⟩
  have started := quiet.stuckStarting.trans (isLocked_eq_false_iff.1 h.free).1
  refine ⟨⟨kin.prompt h.prompt, started, rfl, (isSome_service_act s ..).trans (h.serving runs),
    fun d' there => ?_⟩, kin, quiet.socketPath, quiet.turns⟩
  obtain ⟨d, here, rfl⟩ := datagrams_act there
  obtain ⟨kind, flowing⟩ := h.flowing d here
  exact ⟨quiet.settings ▸ kind, Datagrams.ended_finish (h.prompt.datagrams kind) flowing⟩

theorem Prompt.atRest (h : s.Prompt) (started : s.stuckStarting = false) :
    Steady s.atRest ∧ Kin s s.atRest ∧
      s.atRest.journal.turns = s.journal.turns ++ s.tells (.stopped s.name) := by
  have kin : Kin s s.atRest := ⟨rfl, rfl, rfl⟩
  have free : s.atRest.isLocked = false := isLocked_eq_false_iff.2 ⟨started, nofun⟩
  exact ⟨⟨kin.prompt h, free, fun _ => ⟨rfl, rfl, rfl⟩, nofun, nofun⟩, kin,
    Journal.turns_callAll rfl h.stopping s.journal⟩

/-- **A stop**: the handlers are told so, and nothing is left of what was served. -/
theorem Winding.finishShutdown (h : Winding s) (files : Files) :
    Steady (s.finishShutdown files).1 ∧ Kin s (s.finishShutdown files).1 ∧
      (s.finishShutdown files).1.state = .stopped ∧
      (s.finishShutdown files).1.journal.turns = s.journal.turns ++ s.tells (.stopped s.name) ∧
      (s.finishShutdown files).2 = s.clear files := by
  have can : s.canStop = true := by
    unfold canStop
    split
    · rfl
    · rename_i d here
      rw [(h.ended d here).2]
      rfl
    · rename_i nothing
      have serving := h.serving
      rw [nothing] at serving
      cases serving
  have quits : Quiet s (s.act (Streams.endAll s.context) Prod.mk) :=
    quiet_act (fun st =>
      Streams.turns_of_adds (Streams.adds_actEach Session.adds_quit _ st.sessions s.journal))
      fun _ => rfl
  have prompt := quits.prompt h.prompt
  have stopping := stopping_finishShutdown files s
  generalize s.finishShutdown files = after at stopping ⊢
  cases stopping with
  | waits working => exact absurd ⟨h.state, can⟩ working
  | stuck _ _ ended kept =>
    subst ended
    rw [Journal.callAll_ended prompt.stopping] at kept
    cases kept
  | stops _ _ ended =>
    subst ended
    obtain ⟨steady, kin, told⟩ := prompt.atRest (quits.stuckStarting.trans h.started)
    rw [quits.turns, tells, quits.handlers, quits.name] at told
    refine ⟨steady, quits.toKin.trans kin, rfl, told, ?_⟩
    unfold clear
    rw [quits.socketPath]

/-! ## 3. Refusals to start -/

/-- A steady server that does not run has stopped. -/
theorem Steady.stopped (h : Steady s) (rests : s.state ≠ .running) : s.state = .stopped := by
  have still := (isLocked_eq_false_iff.1 h.free).2
  cases state : s.state with
  | stopped => rfl
  | running => exact absurd state rests
  | shuttingDown => exact absurd state still

/-- **A server refuses to start for its state exactly if it runs.** -/
theorem Steady.exists_start_eq_invalidState_iff (h : Steady s) (machine : Machine)
    (files : Files) :
    (∃ name state, (s.start machine files).1 = .error (.reported (.invalidState name state))) ↔
      s.state = .running := by
  have attempt := h.attempt machine files
  generalize s.start machine files = outcome at attempt ⊢
  cases attempt with
  | refused runs => exact iff_of_true ⟨_, _, rfl⟩ runs
  | failed stopped listens =>
    refine iff_of_false ?_ (by rw [stopped]; nofun)
    rintro ⟨name, state, same⟩
    refine s.settings.listen_ne_invalidState machine files s.name name state ?_
    rw [listens]
    exact congrArg _ (Breakdown.reported.inj (Except.error.inj same))
  | broke stopped => exact iff_of_false nofun (by rw [stopped]; nofun)
  | runs stopped => exact iff_of_false nofun (by rw [stopped]; nofun)

/-- **A start that reports an error leaves the server as it was**, and changes no file but a socket
that is left over where the server is to listen. -/
theorem Steady.start_of_reported (h : Steady s) {machine : Machine} {files : Files}
    {e : ServerError} (fails : (s.start machine files).1 = .error (.reported e)) :
    (s.start machine files).2.1 = s ∧
      Files.Touched s.settings.socketPath?.toList files (s.start machine files).2.2 := by
  have attempt := h.attempt machine files
  generalize s.start machine files = outcome at attempt fails ⊢
  cases attempt with
  | refused => exact ⟨rfl, .refl files⟩
  | failed _ listens =>
    have listened := s.settings.listened_listen machine files s.name
    rw [listens] at listened
    exact ⟨rfl, listened.touched⟩
  | broke => cases fails
  | runs => cases fails

/-! ## 4. Runs of demands -/

/-- What happens around a server. -/
abbrev Traffic := { op : Operation // op.isTraffic = true }

/-- What is asked of a server, and what happens around it meanwhile. -/
inductive Demand where
  /-- It is to start, with what the machine then offers, and the files that are there. -/
  | start (machine : Machine) (files : Files)
  /-- It is to shut down, which may take a while. -/
  | shutdown (meanwhile : List Traffic) (files : Files)
  | meanwhile (traffic : Traffic)

/-- Is the demand a datagram that comes? -/
def Demand.isDatagram : Demand → Bool
  | .meanwhile traffic => traffic.1.isDatagram
  | _ => false

/-- The handlers of a server of datagrams return from events, or none comes. -/
def Spared (s : Server) (demand : Demand) : Prop :=
  s.settings.isDatagram = true → demand.isDatagram = true → Taking s.handlers.handlers

/-- The server before the last step of a shutdown. -/
def winding (s : Server) (meanwhile : List Traffic) : Server :=
  s.beginShutdown.performAll (meanwhile.map Subtype.val)

/-- The server after a demand. -/
def demand (s : Server) : Demand → Server
  | .start machine files => (s.start machine files).2.1
  | .shutdown meanwhile files => ((s.winding meanwhile).finishShutdown files).1
  | .meanwhile traffic => s.perform traffic

/-- The server after demands, one after the other. -/
def demandAll (s : Server) (run : List Demand) : Server := run.foldl demand s

/-- The calls of so many turns, each told to all handlers: starts and stops by turns, first a start.
Where there would be more permits than can be counted each of them is a start. -/
def rounds (s : Server) : Nat → List (String × Call)
  | 0 => []
  | n + 1 =>
    s.rounds n ++
      s.tells (if s.isCountable ∧ n % 2 = 1 then .stopped s.name else .started s.name)

/-- What holds of a server after demands: it was started and stopped by turns, or was told to start
and never ran. -/
structure Alternates (origin s : Server) (n : Nat) : Prop where
  steady : Steady s
  kin : Kin origin s
  turns : s.journal.turns = origin.rounds n
  running : s.state = .running ↔ s.isCountable ∧ n % 2 = 1

theorem Kin.isCountable (kin : Kin s s') : s'.isCountable = s.isCountable := by
  unfold Server.isCountable
  rw [kin.settings]

theorem Kin.tells (kin : Kin s s') (c : Call) : s'.tells c = s.tells c := by
  rw [Server.tells, kin.handlers, Server.tells]

/-- A server that does not run has nothing to shut down. -/
theorem beginShutdown_eq_self (rests : s.state ≠ .running) : s.beginShutdown = s := if_neg rests

theorem finishShutdown_eq_self (state : s.state ≠ .shuttingDown) (files : Files) :
    s.finishShutdown files = (s, files) := if_neg fun shuts => state shuts.1

/-- Nothing that happens around a server that has stopped changes it. -/
theorem perform_of_idle (nothing : s.service = none) (state : s.state ≠ .shuttingDown)
    {op : Operation} (traffic : op.isTraffic = true) : s.perform op = s := by
  cases op with
  | secured c =>
    show s.secured c = s
    unfold secured
    rw [actOnStreams, act_of_none nothing]
    exact if_neg state
  | start machine files => cases traffic
  | beginShutdown => cases traffic
  | finishShutdown files => cases traffic
  | handlers handlers => cases traffic
  | pass time =>
    show { s.act _ _ with clock := s.clockAfter time } = s
    rw [act_of_none nothing, clockAfter, nothing]
    rfl
  | settle | connect | failAccept | unsecured | feed | finish | failRead | datagram
      | failReceive =>
    simp only [perform, settle, connect, failAccept, unsecured, feed, finish, failRead, datagram,
      failReceive, actOnStreams, act_of_none nothing]

theorem performAll_of_idle (nothing : s.service = none) (state : s.state ≠ .shuttingDown)
    (traffic : List Traffic) : s.performAll (traffic.map Subtype.val) = s := by
  induction traffic with
  | nil => rfl
  | cons op rest ih =>
    show (s.perform op).performAll _ = s
    rw [perform_of_idle nothing state op.property]
    exact ih

/-- A shutdown of a server that does not run changes nothing. -/
theorem Steady.finishShutdown_winding (h : Steady s) (rests : s.state ≠ .running)
    (meanwhile : List Traffic) (files : Files) :
    (s.winding meanwhile).finishShutdown files = (s, files) := by
  have away := (isLocked_eq_false_iff.1 h.free).2
  unfold winding
  rw [beginShutdown_eq_self rests, performAll_of_idle (h.idle (h.stopped rests)).1 away,
    finishShutdown_eq_self away]

/-- What happens while a server shuts down does not keep it from that. -/
theorem Winding.performAll (h : Winding s) (traffic : List Traffic) :
    Winding (s.performAll (traffic.map Subtype.val)) ∧
      Quiet s (s.performAll (traffic.map Subtype.val)) := by
  induction traffic generalizing s with
  | nil => exact ⟨h, ⟨.refl s, rfl, rfl, rfl, rfl, rfl⟩⟩
  | cons op rest ih =>
    have first : Same s (s.perform op) :=
      same_perform (fun d here => h.prompt.datagrams (h.ended d here).1) op.property
        fun _ d here => .inr (h.ended d here).2
    obtain ⟨winding, quiet⟩ := ih (h.same first)
    exact ⟨winding, first.toQuiet.trans quiet⟩

/-- **A server that runs is stopped by a shutdown**, whatever happens meanwhile. -/
theorem Steady.shutdown (h : Steady s) (runs : s.state = .running) (meanwhile : List Traffic)
    (files : Files) :
    Steady (s.demand (.shutdown meanwhile files)) ∧ Kin s (s.demand (.shutdown meanwhile files)) ∧
      (s.demand (.shutdown meanwhile files)).state = .stopped ∧
      (s.demand (.shutdown meanwhile files)).journal.turns =
        s.journal.turns ++ s.tells (.stopped s.name) := by
  obtain ⟨winding, begun, -, before⟩ := h.beginShutdown runs
  obtain ⟨winding, quiet⟩ := winding.performAll meanwhile
  obtain ⟨steady, stops, stopped, told, -⟩ := winding.finishShutdown files
  have kin := begun.trans quiet.toKin
  refine ⟨steady, kin.trans stops, stopped, told.trans ?_⟩
  rw [quiet.turns, before, kin.tells, kin.name]

/-- **One demand**: a start is told to all handlers if there has been a stop before, and a stop if
there has been a start. -/
theorem Alternates.demand {origin : Server} {n : Nat} (h : Alternates origin s n)
    {demand : Demand} (spared : origin.Spared demand) :
    ∃ n', Alternates origin (s.demand demand) n' := by
  cases demand with
  | start machine files =>
    have attempt := h.steady.attempt machine files
    show ∃ n', Alternates origin (s.start machine files).2.1 n'
    generalize s.start machine files = outcome at attempt ⊢
    cases attempt with
    | refused | failed => exact ⟨n, h⟩
    | broke stopped listens uncountable =>
      obtain ⟨steady, kin, told⟩ := h.steady.toldOfStart
      have never : ¬ (s.isCountable = true) := by rw [uncountable]; exact Bool.false_ne_true
      refine ⟨n + 1, steady, h.kin.trans kin, told.trans ?_,
        iff_of_false (fun runs => nomatch stopped.symm.trans runs) fun both => never both.1⟩
      rw [h.turns, rounds, ← h.kin.isCountable, if_neg fun both => never both.1, h.kin.tells,
        h.kin.name]
    | runs stopped listens countable serves =>
      obtain ⟨steady, kin, told⟩ := h.steady.runningAt machine serves
      have even : ¬ n % 2 = 1 := fun odd =>
        nomatch stopped.symm.trans (h.running.2 ⟨countable, odd⟩)
      refine ⟨n + 1, steady, h.kin.trans kin, told.trans ?_,
        iff_of_true rfl ⟨kin.isCountable.trans countable, by omega⟩⟩
      rw [h.turns, rounds, if_neg fun both => even both.2, h.kin.tells, h.kin.name]
  | shutdown traffic files =>
    by_cases runs : s.state = .running
    · obtain ⟨steady, stops, stopped, told⟩ := h.steady.shutdown runs traffic files
      obtain ⟨countable, odd⟩ := h.running.1 runs
      have rests : (s.demand (.shutdown traffic files)).state ≠ .running := stopped ▸ nofun
      refine ⟨n + 1, steady, h.kin.trans stops, told.trans ?_,
        iff_of_false rests fun both => by omega⟩
      rw [h.turns, h.kin.tells, h.kin.name, rounds, ← h.kin.isCountable, if_pos ⟨countable, odd⟩]
    · have same : s.demand (.shutdown traffic files) = s :=
        congrArg Prod.fst (h.steady.finishShutdown_winding runs traffic files)
      rw [same]
      exact ⟨n, h⟩
  | meanwhile traffic =>
    have same : Same s (s.perform traffic) := by
      refine same_perform (fun d here => h.steady.prompt.datagrams (h.steady.flowing d here).1)
        traffic.property fun comes d here => .inl ?_
      rw [h.kin.handlers]
      exact spared (h.kin.settings ▸ (h.steady.flowing d here).1) comes
    refine ⟨n, h.steady.same same, h.kin.trans same.toKin, same.turns.trans h.turns, ?_⟩
    show (s.perform traffic).state = .running ↔ (s.perform traffic).isCountable ∧ n % 2 = 1
    rw [same.state, same.toKin.isCountable]
    exact h.running

/-- **After any run of demands the handlers were told of starts and stops by turns.** -/
theorem exists_alternates_demandAll {name : String} {settings : ServerSettings}
    {handlers : HandlerList} (prompt : Prompt { name, settings, handlers }) {run : List Demand}
    (spared : ∀ demand ∈ run, Spared { name, settings, handlers } demand) :
    ∃ n, Alternates { name, settings, handlers }
      (demandAll { name, settings, handlers } run) n := by
  induction run using List.reverseRecOn with
  | nil =>
    refine ⟨0, ⟨prompt, rfl, fun _ => ⟨rfl, rfl, rfl⟩, nofun, nofun⟩, .refl _, rfl, ?_⟩
    exact iff_of_false nofun fun both => nomatch both.2
  | append_singleton run demand ih =>
    obtain ⟨spared, last⟩ := List.forall_mem_append.1 spared
    obtain ⟨n, before⟩ := ih spared
    rw [demandAll, List.foldl_append]
    exact before.demand (List.forall_mem_singleton.1 last)

end Syslog.Server
