import Syslog.Proofs.Server.Demands
import Syslog.Proofs.Server.Entries

/-!
# Numbers of sessions

A server of streams numbers the connections that it admits, from 1 with each start. So no two of one
start have the same number, but each start gives the same numbers again. A server of datagrams has
one session, and all its peers share the number 1.

* `Streams.Admits`, `Streams.Reaches.admits`: connections get the next numbers, and calls are about
  those that have got one;
* `Server.Numbered`, `numbered_performAll`: the numbers since a start;
* `numbers_since_start`: who gets which number between two starts;
* `number_again`: that connections of two starts, and peers over datagrams, are not told apart.
-/

namespace Syslog

open Journal (Adds)

/-! ## 1. Connections that are admitted -/

namespace Streams

variable {ctx : SessionContext} {s s' : Streams} {j j' : Journal} {after : Streams × Journal}
  {more more' : List (Nat × SessionInfo)}

/-- Connections are admitted and get the next numbers, and calls are about them and those that have
had a session before. -/
structure Admits (s : Streams) (j : Journal) (more : List (Nat × SessionInfo))
    (after : Streams × Journal) : Prop where
  numbers : more.map (·.2.id) = List.range' s.nextId more.length
  next : after.1.nextId = s.nextId + more.length
  live : (seats after.1.sessions).Sublist (seats s.sessions ++ more)
  adds : Adds (Concerned (seats s.sessions ++ more)) j after.2

theorem Admits.refl (s : Streams) (j : Journal) : Admits s j [] (s, j) :=
  ⟨rfl, rfl, List.sublist_append_left _ _, .refl j⟩

theorem Admits.trans (first : Admits s j more (s', j')) (second : Admits s' j' more' after) :
    Admits s j (more ++ more') after := by
  have live := first.live.append (List.Sublist.refl more')
  rw [List.append_assoc] at live
  have fewer : seats s.sessions ++ more ⊆ seats s.sessions ++ (more ++ more') := by
    rw [← List.append_assoc]
    exact List.subset_append_left _ _
  have next : s'.nextId = s.nextId + more.length := first.next
  refine ⟨?_, ?_, second.live.trans live, (first.adds.mono (Concerned.mono fewer)).trans
    (second.adds.mono (Concerned.mono live.subset))⟩
  · rw [List.map_append, first.numbers, second.numbers, next, List.length_append,
      List.range'_append_1]
  · rw [second.next, next, List.length_append, Nat.add_assoc]

/-- What a happening admits is known from the sessions that are there after it. -/
theorem Admits.of_perform {happening : Happening}
    (numbers : more.map (·.2.id) = List.range' s.nextId more.length)
    (next : (perform ctx s j happening).2.1.nextId = s.nextId + more.length)
    (live : (seats (perform ctx s j happening).2.1.sessions).Sublist (seats s.sessions ++ more)) :
    Admits s j more (perform ctx s j happening).2 :=
  ⟨numbers, next, live, (adds_perform ctx s j happening).mono (Concerned.mono live.subset)⟩

theorem Admits.of_same {happening : Happening}
    (next : (perform ctx s j happening).2.1.nextId = s.nextId)
    (live : (seats (perform ctx s j happening).2.1.sessions).Sublist (seats s.sessions)) :
    Admits s j [] (perform ctx s j happening).2 :=
  .of_perform rfl next (live.trans (List.sublist_append_left _ _))

/-- **A happening admits one connection at most**, with the next number. -/
theorem admits_perform (ctx : SessionContext) (s : Streams) (j : Journal) (happening : Happening) :
    ∃ more, Admits s j more (perform ctx s j happening).2 := by
  cases happening with
  | arrives a => exact ⟨[], .of_same rfl (.refl _)⟩
  | accepts =>
    have accepted := accepted_acceptNext ctx s j
    have performed : perform ctx s j .accepts = acceptNext ctx s j := rfl
    cases result : acceptNext ctx s j with
    | mk notices after =>
    rw [result] at accepted performed
    cases accepted with
    | nobody => exact ⟨[], .of_same (by rw [performed]) (performed ▸ List.Sublist.refl _)⟩
    | @admits a rest loop session j' _ _ moved =>
      have info : session.info = (s.newcomer a).info := moved.info
      refine ⟨[(a.connection, session.info)], .of_perform ?_ ?_ ?_⟩
      · rw [info]
        rfl
      · rw [performed]
        rfl
      · rw [performed]
        exact (seats_append s.sessions [(a.connection, session)]) ▸ .refl _
    | rejects _ _ => exact ⟨[], .of_same (by rw [performed]) (performed ▸ List.Sublist.refl _)⟩
  | fails =>
    refine ⟨[], .of_same ?_ ?_⟩
    · show (s.fail j).1.nextId = s.nextId
      unfold fail
      split <;> rfl
    · show (seats (s.fail j).1.sessions).Sublist (seats s.sessions)
      unfold fail
      split <;> exact .refl _
  | waits time => exact ⟨[], .of_same rfl (.refl _)⟩
  | acts who h =>
    have moved : ∀ session j, Session.Moved false session j (h.act ctx session j) :=
      fun session j => Session.moved_act h session j
    exact ⟨[], .of_same rfl (seats_actEach moved who s.sessions j ▸ .refl _)⟩
  | collects =>
    refine ⟨[], .of_same ?_ ?_⟩
    · show s.collect.nextId = s.nextId
      rw [collect_eq]
    · show (seats s.collect.sessions).Sublist (seats s.sessions)
      rw [collect_eq]
      exact List.filter_sublist.map _
  | stops => exact ⟨[], .of_same rfl (.refl _)⟩
  | quits who =>
    rcases perform_quits ctx s j who with ⟨-, eq⟩ | ⟨-, eq⟩
    · have moved : ∀ session j, Session.Moved true session j (quit ctx session j) :=
        fun _ _ => Session.moved_quit
      refine ⟨[], .of_same (by rw [eq]) ?_⟩
      rw [eq]
      exact seats_actEach moved who s.sessions j ▸ .refl _
    · exact ⟨[], .of_same (by rw [eq]) (eq ▸ List.Sublist.refl _)⟩

/-- **Every run of a server of streams numbers its connections one after the other.** -/
theorem Reaches.admits (reaches : Reaches s j after) : ∃ more, Admits s j more after := by
  obtain ⟨run, rfl⟩ := reaches
  induction run generalizing s j with
  | nil => exact ⟨[], .refl s j⟩
  | cons first rest ih =>
    obtain ⟨ctx, happening⟩ := first
    obtain ⟨more, one⟩ := admits_perform ctx s j happening
    obtain ⟨more', others⟩ := ih
    exact ⟨more ++ more', one.trans others⟩

end Streams

/-! ## 2. Numbers since a start -/

namespace Server

variable {s : Server} {isDatagram : Bool} {start : Journal} {seats : List (Nat × SessionInfo)}

/-- Calls are about sessions with a number of their own, or with the one of datagrams. -/
def Known (isDatagram : Bool) (seats : List (Nat × SessionInfo)) (c : Call) : Prop :=
  ∀ info, c.session? = some info → if isDatagram then info.id = 1 else ∃ c, (c, info) ∈ seats

theorem known_of_streams {c : Call} (concerned : Streams.Concerned seats c) :
    Known false seats c := by
  intro info about
  obtain ⟨⟨connection, own⟩, member, same⟩ := concerned
  obtain rfl : own = info := Option.some.inj (same.symm.trans about)
  exact ⟨connection, member⟩

theorem known_of_datagrams {own : SessionInfo} {c : Call} (one : own.id = 1)
    (concerned : Datagrams.Concerned own c) : Known true seats c := by
  intro info about
  obtain ⟨peer, same⟩ := concerned
  obtain rfl : { own with peer } = info := Option.some.inj (same.symm.trans about)
  exact one

theorem Known.mono {seats' : List (Nat × SessionInfo)} (fewer : seats ⊆ seats') (c : Call)
    (known : Known isDatagram seats c) : Known isDatagram seats' c := by
  intro info about
  have before := known info about
  cases isDatagram with
  | true => exact before
  | false =>
    obtain ⟨connection, member⟩ := before
    exact ⟨connection, fewer member⟩

/-- What is served goes on with the numbers. -/
def Serves (isDatagram : Bool) (seats : List (Nat × SessionInfo)) : Option Service → Prop
  | some (.streams st) => isDatagram = false ∧ st.nextId = seats.length + 1 ∧
      (Streams.seats st.sessions).Sublist seats
  | some (.datagrams d) => isDatagram = true ∧ d.info.id = 1
  | none => True

/-- The connections that were admitted since a start are numbered from 1, and all calls since then
are about them, or about the one session of datagrams. -/
structure Numbered (isDatagram : Bool) (start : Journal) (seats : List (Nat × SessionInfo))
    (s : Server) : Prop where
  numbers : seats.map (·.2.id) = List.range' 1 seats.length
  adds : Adds (Known isDatagram seats) start s.journal
  served : Serves isDatagram seats s.service

/-- Nobody else has been admitted. -/
theorem Numbered.same (h : Numbered isDatagram start seats s) :
    ∃ more, Numbered isDatagram start (seats ++ more) s :=
  ⟨[], (List.append_nil seats).symm ▸ h⟩

/-- **What happens to streams or datagrams goes on with the numbers.** -/
theorem Numbered.act (h : Numbered isDatagram start seats s)
    {onStreams : Streams → Journal → Streams × Journal}
    {onDatagrams : Datagrams → Journal → Datagrams × Journal}
    (streams : ∀ st, s.service = some (.streams st) →
      Streams.Reaches st s.journal (onStreams st s.journal))
    (datagrams : ∀ d, Datagrams.Speaks d s.journal (onDatagrams d s.journal)) :
    ∃ more, Numbered isDatagram start (seats ++ more) (s.act onStreams onDatagrams) := by
  have served := h.served
  unfold Server.act
  cases service : s.service with
  | none => exact h.same
  | some serving =>
    rw [service] at served
    cases serving with
    | streams st =>
      obtain ⟨rfl, next, live⟩ := served
      obtain ⟨more, admits⟩ := (streams st service).admits
      have all : (Streams.seats st.sessions ++ more).Sublist (seats ++ more) :=
        live.append (.refl more)
      have before := h.adds.mono (Known.mono (List.subset_append_left seats more))
      have after := admits.adds.mono fun c concerned =>
        known_of_streams (Streams.Concerned.mono all.subset c concerned)
      refine ⟨more, ?_, before.trans after, rfl, ?_, admits.live.trans all⟩
      · rw [List.map_append, h.numbers, admits.numbers, next, Nat.add_comm seats.length,
          List.range'_append_1, List.length_append]
      · rw [admits.next, next, List.length_append]
        omega
    | datagrams d =>
      obtain ⟨rfl, one⟩ := served
      have speaks := datagrams d
      have after : Adds (Known true seats) s.journal _ :=
        speaks.adds.mono fun c concerned => known_of_datagrams one concerned
      exact Numbered.same ⟨h.numbers, h.adds.trans after, rfl, speaks.info ▸ one⟩

/-- Two steps are one. -/
theorem Numbered.and_then {s' : Server}
    (first : ∃ more, Numbered isDatagram start (seats ++ more) s)
    (second : ∀ {seats}, Numbered isDatagram start seats s →
      ∃ more, Numbered isDatagram start (seats ++ more) s') :
    ∃ more, Numbered isDatagram start (seats ++ more) s' := by
  obtain ⟨more, one⟩ := first
  obtain ⟨more', two⟩ := second one
  exact ⟨more ++ more', List.append_assoc seats more more' ▸ two⟩

theorem Numbered.secured (h : Numbered isDatagram start seats s) (connection : Nat) :
    ∃ more, Numbered isDatagram start (seats ++ more) (s.secured connection) := by
  have opened : ∃ more, Numbered isDatagram start (seats ++ more)
      (s.actOnStreams (Streams.actOn s.context connection (Streams.secured s.context))) :=
    h.act (fun _ _ => Streams.reaches_actOn connection .secured) fun d => .refl d _
  unfold Server.secured
  dsimp only
  split
  · exact Numbered.and_then opened fun before =>
      before.act (fun _ _ => Streams.reaches_actOn connection (.drained _)) fun d => .refl d _
  · exact opened

theorem Numbered.beginShutdown (h : Numbered isDatagram start seats s) :
    ∃ more, Numbered isDatagram start (seats ++ more) s.beginShutdown := by
  unfold Server.beginShutdown
  split
  · rw [act_state]
    obtain ⟨more, drained⟩ := h.act (fun _ _ => Streams.reaches_drain s.drainWait)
      fun d => Datagrams.speaks_finish s.context d s.journal
    exact ⟨more, drained.numbers, drained.adds, drained.served⟩
  · exact h.same

/-- Nobody is admitted at the end, and the last call is about no session. -/
theorem Numbered.finishShutdown (h : Numbered isDatagram start seats s) (sane : Sane s)
    (files : Files) :
    ∃ more, Numbered isDatagram start (seats ++ more) (s.finishShutdown files).1 := by
  have ends : s.state = .shuttingDown → ∃ more, Numbered isDatagram start (seats ++ more)
      (s.act (Streams.endAll s.context) Prod.mk) := fun shuts =>
    h.act (fun st same => Streams.reaches_endAll (sane.halted shuts st same)) fun d => .refl d _
  have told : ∀ (seats : List (Nat × SessionInfo)) (name : String) (j : Journal)
      (handlers : List EventHandler),
      Adds (Known isDatagram seats) j (j.callAll (.stopped name) handlers).2 :=
    fun _ _ j handlers => Journal.adds_callAll (fun _ about => nomatch about) j handlers
  have stopping := stopping_finishShutdown files s
  generalize s.finishShutdown files = after at stopping ⊢
  cases stopping with
  | waits => exact h.same
  | stuck shuts _ left =>
    subst left
    obtain ⟨more, ended⟩ := ends shuts
    exact ⟨more, ended.numbers, ended.adds.trans (told _ _ _ _), trivial⟩
  | stops shuts _ left =>
    subst left
    obtain ⟨more, ended⟩ := ends shuts
    exact ⟨more, ended.numbers, ended.adds.trans (told _ _ _ _), trivial⟩

/-- Is the operation a start? -/
def Operation.isStart : Operation → Bool
  | .start .. => true
  | _ => false

/-- **Everything but a start goes on with the numbers.** -/
theorem numbered_perform (h : Numbered isDatagram start seats s) (sane : Sane s) {op : Operation}
    (later : op.isStart = false) :
    ∃ more, Numbered isDatagram start (seats ++ more) (s.perform op) := by
  cases op with
  | start machine files => cases later
  | settle =>
    exact h.act (fun _ _ => Streams.reaches_refl) fun d => Datagrams.speaks_settle s.context d _
  | connect c peer => exact h.act (fun _ _ => Streams.reaches_arrive _) fun d => .refl d _
  | failAccept => exact h.act (fun _ _ => Streams.reaches_fail s.context) fun d => .refl d _
  | secured c => exact h.secured c
  | unsecured c =>
    exact h.act (fun _ _ => Streams.reaches_actOn c .unsecured) fun d => .refl d _
  | feed c bytes =>
    exact h.act (fun _ _ => Streams.reaches_actOn c (.fed bytes)) fun d => .refl d _
  | finish c => exact h.act (fun _ _ => Streams.reaches_actOn c .finished) fun d => .refl d _
  | failRead c fault =>
    exact h.act (fun _ _ => Streams.reaches_actOn c (.failed fault)) fun d => .refl d _
  | datagram peer bytes =>
    exact h.act (fun _ _ => Streams.reaches_refl)
      fun d => Datagrams.speaks_receive s.context peer bytes d _
  | failReceive fault =>
    exact h.act (fun _ _ => Streams.reaches_refl) fun d => Datagrams.speaks_fail fault d _
  | pass time =>
    obtain ⟨more, passed⟩ := h.act (fun _ _ => Streams.reaches_pass time)
      fun d => Datagrams.speaks_pass s.context time d _
    exact ⟨more, passed.numbers, passed.adds, passed.served⟩
  | beginShutdown => exact h.beginShutdown
  | finishShutdown files => exact h.finishShutdown sane files
  | handlers handlers => exact Numbered.same ⟨h.numbers, h.adds, h.served⟩

theorem Numbered.live (h : Numbered isDatagram start seats s) {st : Streams}
    (there : s.service = some (.streams st)) : (Streams.seats st.sessions).Sublist seats := by
  have served := h.served
  rw [there] at served
  exact served.2.2

/-- **A run without a start goes on with the numbers**, and who has a session at any time of it is
one of those that are numbered. -/
theorem numbered_performAll (h : Numbered isDatagram start seats s) (sane : Sane s)
    {ops : List Operation} (later : ∀ op ∈ ops, op.isStart = false) :
    ∃ more, Numbered isDatagram start (seats ++ more) (s.performAll ops) ∧
      ∀ first, first <+: ops → ∀ st, (s.performAll first).service = some (.streams st) →
        (Streams.seats st.sessions).Sublist (seats ++ more) := by
  induction ops generalizing s seats with
  | nil =>
    obtain ⟨more, same⟩ := h.same
    refine ⟨more, same, fun first begins st there => ?_⟩
    rw [List.prefix_nil.1 begins] at there
    exact same.live there
  | cons op rest ih =>
    obtain ⟨here, after⟩ := List.forall_mem_cons.1 later
    obtain ⟨more, one⟩ := numbered_perform h sane here
    obtain ⟨more', all, live⟩ := ih one (sane_perform sane op) after
    rw [List.append_assoc] at all
    refine ⟨more ++ more', all, fun first begins st there => ?_⟩
    cases first with
    | nil => exact (h.live there).trans (List.sublist_append_left _ _)
    | cons x first =>
      obtain ⟨rfl, within⟩ := List.cons_prefix_cons.1 begins
      rw [← List.append_assoc]
      exact live first within st there

@[simp] theorem settings_act (s : Server) (onStreams : Streams → Journal → Streams × Journal)
    (onDatagrams : Datagrams → Journal → Datagrams × Journal) :
    (s.act onStreams onDatagrams).settings = s.settings := by
  unfold Server.act
  split <;> rfl

/-- The settings are not changed by anything. -/
theorem settings_perform (s : Server) (op : Operation) : (s.perform op).settings = s.settings := by
  cases op with
  | start machine files =>
    have starting := starting_start machine files s
    show (s.start machine files).2.1.settings = s.settings
    generalize s.start machine files = outcome at starting ⊢
    cases starting <;> rfl
  | secured c =>
    show (s.secured c).settings = s.settings
    unfold Server.secured
    dsimp only
    split
    · exact (settings_act _ _ _).trans (settings_act _ _ _)
    · exact settings_act _ _ _
  | beginShutdown =>
    simp only [perform, Server.beginShutdown, apply_ite Server.settings, settings_act, ite_self]
  | finishShutdown files =>
    have stopping := stopping_finishShutdown files s
    show (s.finishShutdown files).1.settings = s.settings
    generalize s.finishShutdown files = after at stopping ⊢
    cases stopping with
    | waits => rfl
    | stuck _ _ left =>
      subst left
      exact settings_act _ _ _
    | stops _ _ left =>
      subst left
      exact settings_act _ _ _
  | handlers handlers => rfl
  | settle | connect | failAccept | unsecured | feed | finish | failRead | datagram
      | failReceive | pass =>
    exact settings_act _ _ _

theorem settings_performAll (s : Server) (ops : List Operation) :
    (s.performAll ops).settings = s.settings := by
  induction ops generalizing s with
  | nil => rfl
  | cons op rest ih => exact (ih (s.perform op)).trans (s.settings_perform op)

/-- A start that succeeds is one that is performed. -/
theorem start_eq_ok {machine : Machine} {files : Files}
    (ok : (s.start machine files).1.isOk = true) :
    s.start machine files =
      (.ok (), s.perform (.start machine files), (s.start machine files).2.2) := by
  have performed : s.perform (.start machine files) = (s.start machine files).2.1 := rfl
  rw [performed]
  generalize s.start machine files = outcome at ok ⊢
  obtain ⟨_ | _, s', files'⟩ := outcome
  · cases ok
  · rfl

/-- A server that has just started has numbered nobody. -/
theorem numbered_start {machine : Machine} {files files' : Files} {s' : Server}
    (started : s.start machine files = (.ok (), s', files')) :
    Numbered s'.settings.isDatagram s'.journal [] s' := by
  have starting := starting_start machine files s
  rw [started] at starting
  cases starting with
  | runs _ _ _ _ serves =>
    refine ⟨rfl, .refl _, ?_⟩
    show Serves s.settings.isDatagram [] (some _)
    unfold serve? at serves
    split at serves
    · cases serves
      exact ⟨‹_›, rfl⟩
    · obtain ⟨loop, -, rfl⟩ := Option.map_eq_some_iff.1 serves
      exact ⟨Bool.eq_false_iff.2 ‹_›, rfl, .refl _⟩

/-- **Numbers of sessions from one start to the next**, whatever has been done with the server
before. The connections that are admitted get the numbers from 1 on, one after the other; whoever
has a session at any time is one of them, and all calls are about them. Over datagrams all calls are
about sessions with the number 1, whoever the peer is. -/
theorem numbers_since_start (name : String) (settings : ServerSettings) (handlers : HandlerList)
    (before : List Operation) (machine : Machine) (files : Files) {s : Server} {files' : Files}
    (started : (performAll { name, settings, handlers } before).start machine files =
      (.ok (), s, files'))
    {ops : List Operation} (later : ∀ op ∈ ops, op.isStart = false) :
    let calls := (s.performAll ops).callsSince s
    if settings.isDatagram then
      ∀ r ∈ calls, ∀ info, r.call.session? = some info → info.id = 1
    else
      ∃ seats : List (Nat × SessionInfo), seats.map (·.2.id) = List.range' 1 seats.length ∧
        (∀ first, first <+: ops → ∀ st, (s.performAll first).service = some (.streams st) →
          (Streams.seats st.sessions).Sublist seats) ∧
        ∀ r ∈ calls, ∀ info, r.call.session? = some info → ∃ c, (c, info) ∈ seats := by
  intro calls
  have performed :
      performAll { name, settings, handlers } (before ++ [.start machine files]) = s := by
    rw [performAll, List.foldl_append]
    exact congrArg (·.2.1) started
  have sane : Sane s := performed ▸ sane_performAll (sane_new name settings handlers) _
  have same : s.settings = settings :=
    performed ▸ settings_performAll { name, settings, handlers } _
  have begun := numbered_start started
  rw [same] at begun
  obtain ⟨seats, numbered, live⟩ := numbered_performAll begun sane later
  have known : ∀ r ∈ calls, Known settings.isDatagram seats r.call :=
    fun r member => numbered.adds.of_mem_drop member
  split
  · rename_i datagrams
    intro r member info about
    have number := known r member info about
    rwa [if_pos datagrams] at number
  · rename_i streams
    refine ⟨seats, numbered.numbers, live, fun r member info about => ?_⟩
    have seat := known r member info about
    rwa [if_neg streams] at seat

/-- A server of streams that one connection has come to is started again, and then two come. -/
theorem numbers_since_second_start :
    let settings : ServerSettings := { kind := .unix, socketType := .stream, path := "s" }
    let handlers : HandlerList := ⟨[{ name := "a" }]⟩
    let before : List Operation :=
      [.start plainMachine {}, .connect 0 "", .beginShutdown, .finishShutdown {}]
    let ops : List Operation := [.connect 1 "", .connect 2 ""]
    let stopped := performAll { name := "srv", settings, handlers } before
    let s := stopped.perform (.start plainMachine {})
    stopped.start plainMachine {} = (.ok (), s, (stopped.start plainMachine {}).2.2) ∧
      (∀ op ∈ ops, op.isStart = false) ∧
      ((s.performAll ops).callsSince s).filterMap (·.call.session?) =
        [⟨1, "srv", ""⟩, ⟨2, "srv", ""⟩] ∧
      ∃ seats : List (Nat × SessionInfo), seats.map (·.2.id) = List.range' 1 seats.length ∧
        ∃ c, (c, (⟨2, "srv", ""⟩ : SessionInfo)) ∈ seats := by
  intro settings handlers before ops stopped s
  have started : stopped.start plainMachine {} =
      (.ok (), s, (stopped.start plainMachine {}).2.2) := start_eq_ok (by decide +kernel)
  have later : ∀ op ∈ ops, op.isStart = false := by decide
  have told : ((s.performAll ops).callsSince s).filterMap (·.call.session?) =
      [⟨1, "srv", ""⟩, ⟨2, "srv", ""⟩] := by decide +kernel
  have numbers := numbers_since_start "srv" settings handlers before plainMachine {} started later
  rw [if_neg (by decide)] at numbers
  obtain ⟨seats, ids, -, known⟩ := numbers
  obtain ⟨r, called, about⟩ := List.mem_filterMap.1
    (told ▸ List.mem_cons_of_mem _ (List.mem_singleton_self _))
  exact ⟨started, later, told, seats, ids, known r called _ about⟩

/-- A server of streams is started twice, and one connection comes to it each time. To a server of
datagrams two peers send something. -/
theorem number_again :
    let opened : CallRecord → Option SessionInfo := fun r =>
      match r.call with
      | .opened info => some info
      | _ => none
    let streams : Server :=
      { name := "srv", settings := { kind := .unix, socketType := .stream, path := "s" },
        handlers := ⟨[{ name := "a" }]⟩ }
    let datagrams : Server :=
      { name := "srv", settings := { kind := .unix, socketType := .datagram, path := "s" },
        handlers := ⟨[{ name := "a" }]⟩ }
    (streams.performAll [.start plainMachine {}, .connect 0 "", .beginShutdown,
        .finishShutdown {}, .start plainMachine {}, .connect 1 ""]).journal.calls.filterMap opened =
        [⟨1, "srv", ""⟩, ⟨1, "srv", ""⟩] ∧
      (datagrams.performAll [.start plainMachine {}, .settle, .datagram "x" [0x61],
        .datagram "y" [0x62]]).journal.calls.filterMap (·.call.session?) =
        [⟨1, "srv", "s"⟩, ⟨1, "srv", "x"⟩, ⟨1, "srv", "y"⟩] := by
  decide +kernel

end Server

end Syslog
