import Mathlib.Data.List.Forall2
import Syslog.Fleet
import Syslog.Proofs.Server.Demands

/-!
# Starting all servers or none

The servers of a fleet are started in the order of their names. If one finds no place to listen,
those that run are shut down again, and the others have not been touched. If one would have more
permits than can be counted, its start breaks off, and those that run are left running.

* `Reached`, `steady_of_reached`: a server after any run, which is at rest once it has stopped;
* `Runs`, `Rests`: a server that was started, and one that was shut down again;
  `Runs.settle`, `Runs.shutdown`;
* `members_eq`: no server is skipped when names are looked up;
* `Started`, `started_startEach`: how it goes when servers are started one after the other;
* `start_all_or_none`: all servers run, or none does, or a start has broken off;
* `broken_off_without_rollback`: the last does happen, with settings that are accepted.
-/

namespace Syslog

namespace Server

/-! ## 1. Servers that have stopped -/

/-- The server has come about in some run. -/
def Reached (s : Server) : Prop :=
  ∃ name settings handlers ops, s = performAll { name, settings, handlers } ops

/-- The server has stopped: it can be started, serves nothing and listens nowhere. -/
structure Gone (s : Server) : Prop where
  state : s.state = .stopped
  started : s.stuckStarting = false
  service : s.service = none
  address : s.address = none
  socketPath : s.socketPath = none

theorem Steady.gone {s : Server} (h : Steady s) (stopped : s.state = .stopped) : Gone s := by
  obtain ⟨nothing, nowhere, bare⟩ := h.idle stopped
  exact ⟨stopped, (isLocked_eq_false_iff.1 h.free).1, nothing, nowhere, bare⟩

theorem Gone.isLocked {s : Server} (h : Gone s) : s.isLocked = false :=
  isLocked_eq_false_iff.2 ⟨h.started, by rw [h.state]; nofun⟩

variable {s : Server}

/-- A server that has stopped in some run stands still, if its handlers do not keep it. -/
theorem steady_of_reached (reached : Reached s) (stopped : s.state = .stopped)
    (started : s.stuckStarting = false) (prompt : s.Prompt) : Steady s := by
  obtain ⟨name, settings, handlers, ops, rfl⟩ := reached
  have idle := (sane_performAll (sane_new name settings handlers) ops).idle
  have free := isLocked_eq_false_iff.2 ⟨started, by rw [stopped]; nofun⟩
  refine ⟨prompt, free, idle, fun runs => ?_, fun d here => ?_⟩
  · rw [stopped] at runs
    cases runs
  · rw [(idle stopped).1] at here
    cases here

/-! ## 2. Servers that were started, and shut down again -/

/-- A server that was started: its handlers were told so once, and its socket is at its path. -/
structure Runs (origin s : Server) : Prop where
  steady : Steady s
  kin : Kin origin s
  state : s.state = .running
  socketPath : s.socketPath = origin.settings.socketPath?
  turns : s.journal.turns = origin.journal.turns ++ origin.tells (.started origin.name)

/-- A server that was started and shut down again: its handlers were told so, once of each. -/
structure Rests (origin s : Server) : Prop where
  gone : Gone s
  kin : Kin origin s
  turns : s.journal.turns = origin.journal.turns ++ origin.tells (.started origin.name) ++
    origin.tells (.stopped origin.name)

variable {origin : Server}

theorem Steady.runs (h : Steady s) (machine : Machine) {place : Place} {service : Service}
    (serves : s.serve? place = some service) (own : place.socketPath = s.settings.socketPath?) :
    Runs s (s.runningAt machine place service) := by
  obtain ⟨steady, kin, told⟩ := h.runningAt machine serves
  exact ⟨steady, kin, rfl, own, told⟩

/-- The loop for datagrams begins, which no handler is told as a start. -/
theorem Runs.settle (h : Runs origin s) : Runs origin s.settle := by
  have same : Same s (s.perform .settle) :=
    same_perform (fun d here => h.steady.prompt.datagrams (h.steady.flowing d here).1) rfl nofun
  exact ⟨h.steady.same same, h.kin.trans same.toKin, same.state.trans h.state,
    same.socketPath.trans h.socketPath, same.turns.trans h.turns⟩

/-- A server that is shut down again takes its socket away. -/
theorem Runs.shutdown (h : Runs origin s) (files : Files) :
    Rests origin (s.shutdown files).1 ∧
      (s.shutdown files).2 = files.removeAll origin.settings.socketPath?.toList := by
  obtain ⟨winding, begun, same, before⟩ := h.steady.beginShutdown h.state
  obtain ⟨steady, stops, stopped, told, cleared⟩ := winding.finishShutdown files
  have kin := h.kin.trans begun
  refine ⟨⟨steady.gone stopped, kin.trans stops, told.trans ?_⟩, cleared.trans ?_⟩
  · rw [before, h.turns, kin.tells, kin.name]
  · unfold clear
    rw [same, h.socketPath]
    cases origin.settings.socketPath? <;> rfl

end Server

namespace Fleet

open Server

/-! ## 3. Servers in a row -/

theorem settleEach_eq_map (servers : List Server) :
    (settleEach servers).1 = servers.map Server.settle := by
  induction servers with
  | nil => rfl
  | cons server rest ih => exact congrArg (server.settle :: ·) ih

/-- The paths at which servers put their sockets. -/
def socketPaths (servers : List Server) : List String :=
  servers.filterMap (·.settings.socketPath?)

theorem socketPaths_concat (servers : List Server) (s : Server) :
    socketPaths (servers ++ [s]) = socketPaths servers ++ s.settings.socketPath?.toList := by
  unfold socketPaths
  rw [List.filterMap_append]
  cases own : s.settings.socketPath? <;> simp [own]

/-- If a server comes to its end, the others are shut down after it. -/
theorem shutdownEach_cons (n : Nat) {files : Files} {server : Server} (rest : List Server)
    (free : (server.shutdown files).1.isLocked = false) :
    ∃ calls, shutdownEach (n + 1) files (server :: rest) =
      { shutdownEach n (server.shutdown files).2 (settleEach rest).1 with
        servers := (server.shutdown files).1 ::
          (shutdownEach n (server.shutdown files).2 (settleEach rest).1).servers
        calls } := by
  refine ⟨server.beginShutdown.callsSince server ++ (settleEach rest).2 ++
    (server.shutdown files).1.callsSince server.beginShutdown ++
    (shutdownEach n (server.shutdown files).2 (settleEach rest).1).calls, ?_⟩
  conv_lhs => unfold shutdownEach
  unfold Server.shutdown at free ⊢
  dsimp only
  rw [free, if_neg Bool.false_ne_true]

/-- **All servers that were started are shut down**, while the loops of the others run on, and their
sockets are taken away. -/
theorem rests_shutdownEach {origins servers : List Server}
    (runs : List.Forall₂ Runs origins servers) (files : Files) :
    (shutdownEach servers.length files servers).ended = true ∧
      List.Forall₂ Rests origins (shutdownEach servers.length files servers).servers ∧
      (shutdownEach servers.length files servers).files =
        files.removeAll (socketPaths origins) := by
  induction origins generalizing servers files with
  | nil =>
    cases runs
    exact ⟨rfl, .nil, rfl⟩
  | cons origin origins ih =>
    cases runs with
    | @cons _ server _ rest first others =>
      have settled : List.Forall₂ Runs origins (settleEach rest).1 := by
        rw [settleEach_eq_map]
        exact List.forall₂_map_right_iff.2 (others.imp fun _ _ h => h.settle)
      obtain ⟨rested, cleared⟩ := first.shutdown files
      have all := ih settled (server.shutdown files).2
      rw [settleEach_eq_map, List.length_map, ← settleEach_eq_map] at all
      obtain ⟨calls, one⟩ := shutdownEach_cons rest.length rest rested.gone.isLocked
      rw [List.length_cons, one]
      refine ⟨all.1, .cons rested all.2.1, all.2.2.trans ?_⟩
      rw [cleared]
      unfold socketPaths
      cases own : origin.settings.socketPath? <;> simp [own, Files.removeAll]

/-- A server that is added is bound in the form that counts. -/
theorem normal_create {f f' : Fleet} (normal : f.servers.Normal) {name : String}
    {settings : ServerSettings} {handlers : HandlerList}
    (created : f.create name settings handlers = .ok f') : f'.servers.Normal := by
  obtain ⟨server, -, registered⟩ := exists_of_bind_eq_ok created
  obtain ⟨servers, bound, same⟩ := exists_of_bind_eq_ok registered
  obtain rfl := Except.ok.inj same
  exact normal.register (eq_ok_of_mapError bound)

/-- **All fleets of configurations bind names in the form that counts.** -/
theorem normal_ofConfiguration {c : Configuration} {handlers : HandlerList} {f : Fleet}
    (made : ofConfiguration c handlers = .ok f) : f.servers.Normal := by
  have all : ∀ (entries : List (String × ServerSettings)) (f f' : Fleet), f.servers.Normal →
      entries.foldlM (fun f e => f.create e.1 e.2 handlers) f = .ok f' → f'.servers.Normal := by
    intro entries
    induction entries with
    | nil =>
      intro f f' normal same
      cases same
      exact normal
    | cons e rest ih =>
      intro f f' normal made
      obtain ⟨next, created, others⟩ := exists_of_bind_eq_ok made
      exact ih next f' (normal_create normal created) others
  exact all c.servers.entries {} f Registry.normal_empty made

/-- The servers of names that are bound in the form that counts are all servers. -/
theorem members_eq {f : Fleet} (normal : f.servers.Normal) :
    f.members = f.servers.instances.entries := by
  have found : ∀ e ∈ f.servers.instances.entries, (f.servers.get? e.1).map (e.1, ·) = some e :=
    fun e member => by rw [normal.get?_of_mem member]; rfl
  show (f.servers.instances.entries.map (·.1)).filterMap _ = _
  rw [List.filterMap_map]
  exact (List.filterMap_congr found).trans List.filterMap_some

/-! ## 4. Starting one after the other -/

/-- Entries for the same keys, with servers that have become others. -/
abbrev Become (R : Server → Server → Prop) (origins entries : List (String × Server)) : Prop :=
  List.Forall₂ (fun o e => e.1 = o.1 ∧ R o.2 e.2) origins entries

variable {R : Server → Server → Prop} {origins entries : List (String × Server)}

theorem Become.keys (h : Become R origins entries) : entries.map (·.1) = origins.map (·.1) := by
  induction h with
  | nil => rfl
  | cons first _ ih => rw [List.map_cons, List.map_cons, first.1, ih]

theorem Become.servers (h : Become R origins entries) :
    List.Forall₂ R (origins.map (·.2)) (entries.map (·.2)) := by
  rw [List.forall₂_map_left_iff, List.forall₂_map_right_iff]
  exact h.imp fun _ _ both => both.2

/-- Servers in a row stand under their keys. -/
theorem become_zip {servers : List Server} (h : List.Forall₂ R (origins.map (·.2)) servers) :
    Become R origins ((origins.map (·.1)).zip servers) := by
  induction origins generalizing servers with
  | nil =>
    cases h
    exact .nil
  | cons origin origins ih =>
    cases h with
    | cons first others => exact .cons ⟨rfl, first⟩ (ih others)

theorem Become.exists_of_mem (h : Become R origins entries) {o : String × Server}
    (member : o ∈ origins) : ∃ s', (o.1, s') ∈ entries ∧ R o.2 s' := by
  induction h with
  | nil => cases member
  | @cons origin entry _ _ first _ ih =>
    rcases List.mem_cons.1 member with rfl | later
    · exact ⟨entry.2, by rw [← first.1]; exact List.mem_cons_self, first.2⟩
    · obtain ⟨s', inside, holds⟩ := ih later
      exact ⟨s', List.mem_cons_of_mem entry inside, holds⟩

theorem Become.exists_of_mem_entries (h : Become R origins entries) {e : String × Server}
    (member : e ∈ entries) : ∃ o ∈ origins, R o.2 e.2 := by
  induction h with
  | nil => cases member
  | @cons origin entry _ _ first _ ih =>
    rcases List.mem_cons.1 member with rfl | later
    · exact ⟨origin, List.mem_cons_self, first.2⟩
    · obtain ⟨o, inside, holds⟩ := ih later
      exact ⟨o, List.mem_cons_of_mem origin inside, holds⟩

/-- Does the server find a place to listen? -/
def Opens (machines : String → Machine) (files : Files) (e : String × Server) : Prop :=
  ∃ place, (e.2.settings.listen (machines e.1) files e.2.name).1 = .ok place

/-- Can the server be started? -/
def Starts (machines : String → Machine) (files : Files) (e : String × Server) : Prop :=
  Opens machines files e ∧ e.2.isCountable = true

theorem not_starts_of_listen {machines : String → Machine} {files : Files} {o : String × Server}
    {e : ServerError}
    (fails : (o.2.settings.listen (machines o.1) files o.2.name).1 = .error e) :
    ¬ Starts machines files o := by
  rintro ⟨⟨place, opens⟩, -⟩
  rw [fails] at opens
  cases opens

theorem not_starts_of_uncountable {machines : String → Machine} {files : Files}
    {o : String × Server} (uncountable : o.2.isCountable = false) : ¬ Starts machines files o := by
  rintro ⟨-, countable⟩
  rw [uncountable] at countable
  cases countable

/-- How it goes when servers are started: all run, or one fails and none runs, or a start breaks off
and those before it run. -/
inductive Started (machines : String → Machine) (files : Files)
    (origins : List (String × Server)) :
    Except (Breakdown ServerError) Unit → List (String × Server) → Files → Prop
  | all {entries : List (String × Server)} {files' : Files}
      (starts : ∀ e ∈ origins, Starts machines files e) (runs : Become Runs origins entries)
      (placed : files.Placed (socketPaths (origins.map (·.2))) files') :
      Started machines files origins (.ok ()) entries files'
  | none {before later entries : List (String × Server)} {failing : String × Server}
      {e : ServerError} {files' : Files} (split : origins = before ++ failing :: later)
      (starts : ∀ e ∈ before, Starts machines files e)
      (fails : (failing.2.settings.listen (machines failing.1) files failing.2.name).1 = .error e)
      (rests : Become Rests before entries)
      (bared : files.Bared (socketPaths ((before ++ [failing]).map (·.2))) files') :
      Started machines files origins (.error (.reported e)) (entries ++ failing :: later) files'
  | broke {before later entries : List (String × Server)} {breaking : String × Server}
      {files' : Files} (split : origins = before ++ breaking :: later)
      (starts : ∀ e ∈ before, Starts machines files e) (opens : Opens machines files breaking)
      (uncountable : breaking.2.isCountable = false) (runs : Become Runs before entries)
      (placed : files.Placed (socketPaths ((before ++ [breaking]).map (·.2))) files') :
      Started machines files origins (.error .brokenOff)
        (entries ++ (breaking.1, breaking.2.toldOfStart) :: later) files'

/-- Servers that were started are shut down in their places. -/
theorem become_shutdownEach (runs : Become Runs origins entries) (files : Files) :
    (shutdownEach entries.length files (entries.map (·.2))).ended = true ∧
      Become Rests origins ((entries.map (·.1)).zip
        (shutdownEach entries.length files (entries.map (·.2))).servers) ∧
      (shutdownEach entries.length files (entries.map (·.2))).files =
        files.removeAll (socketPaths (origins.map (·.2))) := by
  have closes := rests_shutdownEach runs.servers files
  rw [List.length_map] at closes
  rw [runs.keys]
  exact ⟨closes.1, become_zip closes.2.1, closes.2.2⟩

/-- **Servers are started one after the other**, until one cannot be started. -/
theorem started_startEach (machines : String → Machine) {first : Files} {f : Fleet}
    {done started rest : List (String × Server)}
    (entries : f.servers.instances.entries = started ++ rest)
    (starts : ∀ e ∈ done, Starts machines first e) (runs : Become Runs done started)
    (placed : first.Placed (socketPaths (done.map (·.2))) f.files)
    (still : ∀ e ∈ rest, Steady e.2 ∧ e.2.state = .stopped) :
    Started machines first (done ++ rest) (startEach machines rest started f).1
      (startEach machines rest started f).2.servers.instances.entries
      (startEach machines rest started f).2.files := by
  induction rest generalizing f done started with
  | nil =>
    rw [List.append_nil] at entries
    rw [List.append_nil, startEach, entries]
    exact .all starts runs placed
  | cons next rest ih =>
    obtain ⟨key, server⟩ := next
    obtain ⟨⟨steady, stopped⟩, others⟩ := List.forall_mem_cons.1 still
    have attempt := steady.attempt (machines key) f.files
    have listened := server.settings.listened_listen (machines key) f.files server.name
    -- the sockets of the servers before it do not matter to what this one finds
    have found := ServerSettings.listen_fst_congr placed.touched.isOpen_iff (machines key)
      server.settings server.name
    have paths : socketPaths ((done ++ [(key, server)]).map (·.2)) =
        socketPaths (done.map (·.2)) ++ server.settings.socketPath?.toList := by
      rw [List.map_append]
      exact socketPaths_concat _ server
    have put : ∀ (files : Files) (s' : Server),
        (({ f with files } : Fleet).put key server s').servers.instances.entries =
          started ++ (key, s') :: rest := fun _ s' => Dict.entries_insert entries s'
    unfold startEach
    generalize server.start (machines key) f.files = outcome at attempt ⊢
    cases attempt with
    | refused working => cases stopped.symm.trans working
    | @failed e files' _ listens =>
      rw [listens] at listened found
      obtain ⟨ended, rests, cleared⟩ := become_shutdownEach runs files'
      have back := @Dict.entries_foldl_insert Server started _ [] ((key, server) :: rest)
        (f.put key server server).servers.instances (put f.files server)
        (rests.keys.trans runs.keys.symm)
      have bared := listened.bared placed
      rw [← paths, ← cleared] at bared
      dsimp only
      rw [ended, if_pos rfl]
      show Started machines first _ _ (List.foldl _ _ _ : Dict Server).entries _
      rw [back]
      exact .none rfl starts found.symm rests bared
    | @broke place files' _ listens uncountable =>
      rw [listens] at listened found
      have placed := listened.placed placed
      rw [← paths] at placed
      dsimp only
      rw [put files']
      exact .broke rfl starts ⟨place, found.symm⟩ uncountable runs placed
    | @runs place files' service _ listens countable serves =>
      rw [listens] at listened found
      have placed := listened.placed placed
      rw [← paths] at placed
      have running : Become Runs (done ++ [(key, server)])
          (started ++ [(key, server.runningAt (machines key) place service)]) :=
        List.rel_append runs
          (.cons ⟨rfl, steady.runs (machines key) serves listened.entry_of_ok.1⟩ .nil)
      have all_start : ∀ e ∈ done ++ [(key, server)], Starts machines first e :=
        List.forall_mem_append.2
          ⟨starts, List.forall_mem_singleton.2 ⟨⟨place, found.symm⟩, countable⟩⟩
      have before := put files' (server.runningAt (machines key) place service)
      rw [List.append_cons] at before
      have all := ih before all_start running placed others
      rw [← List.append_cons] at all
      exact all

/-- So it goes when all servers of a fleet are started. -/
theorem started_startOn (machines : String → Machine) {f : Fleet} (normal : f.servers.Normal)
    (still : ∀ e ∈ f.servers.instances.entries, Steady e.2 ∧ e.2.state = .stopped) :
    Started machines f.files f.servers.instances.entries (f.startOn machines).1
      (f.startOn machines).2.servers.instances.entries (f.startOn machines).2.files := by
  rw [startOn, members_eq normal]
  exact started_startEach machines rfl (List.forall_mem_nil _) .nil (.refl f.files) still

/-! ## 5. All or none -/

/-- All servers run, their sockets are at their paths, and each handler was told once that its server
starts. -/
structure AllRun (f f' : Fleet) : Prop where
  names : f'.servers.names = f.servers.names
  runs : ∀ name s, f.servers.get? name = some s → ∃ s', f'.servers.get? name = some s' ∧
    s'.state = .running ∧ s'.journal.turns = s.journal.turns ++ s.tells (.started s.name)
  files : f.files.Placed (socketPaths (f.servers.instances.entries.map (·.2))) f'.files

/-- One server fails, and none runs: those before it were started and shut down again, each of which
their handlers were told once, and the others are as they were. No socket is left. -/
structure NoneRuns (machines : String → Machine) (f f' : Fleet) (e : ServerError) : Prop where
  names : f'.servers.names = f.servers.names
  gone : ∀ name s', f'.servers.get? name = some s' → Gone s'
  fault : ∃ before failing later, f.servers.instances.entries = before ++ failing :: later ∧
    (∀ o ∈ before, Starts machines f.files o ∧ ∃ s', f'.servers.get? o.1 = some s' ∧
      s'.journal.turns =
        o.2.journal.turns ++ o.2.tells (.started o.2.name) ++ o.2.tells (.stopped o.2.name)) ∧
    (failing.2.settings.listen (machines failing.1) f.files failing.2.name).1 = .error e ∧
    (∀ o ∈ failing :: later, f'.servers.get? o.1 = some o.2) ∧
    f.files.Bared (socketPaths ((before ++ [failing]).map (·.2))) f'.files

/-- One server would have more permits than can be counted: it does not run, although its handlers
were told that it starts, and its socket is left. Those before it run, and the others are as they
were. -/
structure BreaksOff (machines : String → Machine) (f f' : Fleet) : Prop where
  names : f'.servers.names = f.servers.names
  fault : ∃ before breaking later, f.servers.instances.entries = before ++ breaking :: later ∧
    (∀ o ∈ before, Starts machines f.files o ∧ ∃ s', f'.servers.get? o.1 = some s' ∧
      s'.state = .running ∧
      s'.journal.turns = o.2.journal.turns ++ o.2.tells (.started o.2.name)) ∧
    Opens machines f.files breaking ∧ breaking.2.isCountable = false ∧
    (∃ s', f'.servers.get? breaking.1 = some s' ∧ Gone s' ∧
      s'.journal.turns =
        breaking.2.journal.turns ++ breaking.2.tells (.started breaking.2.name)) ∧
    (∀ o ∈ later, f'.servers.get? o.1 = some o.2) ∧
    f.files.Placed (socketPaths ((before ++ [breaking]).map (·.2))) f'.files

section Outcomes

variable {machines : String → Machine} {f f' : Fleet} {before later : List (String × Server)}
  {last last' : String × Server}

/-- Entries that keep their keys keep the names. -/
theorem names_of_split (split : f.servers.instances.entries = before ++ last :: later)
    (become : Become R before entries)
    (placed : f'.servers.instances.entries = entries ++ last' :: later)
    (same : last'.1 = last.1) : f'.servers.names = f.servers.names := by
  show f'.servers.instances.entries.map (·.1) = f.servers.instances.entries.map (·.1)
  rw [placed, split, List.map_append, List.map_append, become.keys, List.map_cons, List.map_cons,
    same]

theorem AllRun.of_become
    (runs : Become Runs f.servers.instances.entries f'.servers.instances.entries)
    (placed : f.files.Placed (socketPaths (f.servers.instances.entries.map (·.2))) f'.files) :
    AllRun f f' := by
  refine ⟨runs.keys, fun name s bound => ?_, placed⟩
  obtain ⟨s', inside, run⟩ := runs.exists_of_mem (Dict.mem_of_get? bound)
  exact ⟨s', Dict.get?_of_mem inside, run.state, run.turns⟩

theorem NoneRuns.of_become (normal : f.servers.Normal) {e : ServerError}
    (split : f.servers.instances.entries = before ++ last :: later)
    (starts : ∀ e ∈ before, Starts machines f.files e)
    (fails : (last.2.settings.listen (machines last.1) f.files last.2.name).1 = .error e)
    (rests : Become Rests before entries)
    (placed : f'.servers.instances.entries = entries ++ last :: later)
    (untouched : ∀ o ∈ last :: later, Gone o.2)
    (bared : f.files.Bared (socketPaths ((before ++ [last]).map (·.2))) f'.files) :
    NoneRuns machines f f' e := by
  have names := names_of_split split rests placed rfl
  have normal' : f'.servers.Normal := fun key member => normal key (names ▸ member)
  refine ⟨names, fun name s' bound => ?_, before, last, later, split, fun o member => ?_, fails,
    fun o member => normal'.get?_of_mem (placed ▸ List.mem_append_right _ member), bared⟩
  · have inside := Dict.mem_of_get? bound
    rw [placed] at inside
    rcases List.mem_append.1 inside with rested | untouched_one
    · obtain ⟨o, -, rest⟩ := rests.exists_of_mem_entries rested
      exact rest.gone
    · exact untouched _ untouched_one
  · obtain ⟨s', inside, rest⟩ := rests.exists_of_mem member
    exact ⟨starts o member, s', normal'.get?_of_mem (placed ▸ List.mem_append_left _ inside),
      rest.turns⟩

theorem BreaksOff.of_become (normal : f.servers.Normal)
    (split : f.servers.instances.entries = before ++ last :: later)
    (starts : ∀ e ∈ before, Starts machines f.files e) (opens : Opens machines f.files last)
    (uncountable : last.2.isCountable = false) (runs : Become Runs before entries)
    (steady : Steady last.2) (stopped : last.2.state = .stopped)
    (entered : f'.servers.instances.entries =
      entries ++ (last.1, last.2.toldOfStart) :: later)
    (placed : f.files.Placed (socketPaths ((before ++ [last]).map (·.2))) f'.files) :
    BreaksOff machines f f' := by
  have names := names_of_split split runs entered rfl
  have normal' : f'.servers.Normal := fun key member => normal key (names ▸ member)
  have at_end : ∀ e ∈ (last.1, last.2.toldOfStart) :: later, f'.servers.get? e.1 = some e.2 :=
    fun e member => normal'.get?_of_mem (entered ▸ List.mem_append_right _ member)
  obtain ⟨left, -, told⟩ := steady.toldOfStart
  refine ⟨names, before, last, later, split, fun o member => ?_, opens, uncountable,
    ⟨_, at_end (last.1, last.2.toldOfStart) List.mem_cons_self, left.gone stopped, told⟩,
    fun o member => at_end o (List.mem_cons_of_mem _ member), placed⟩
  obtain ⟨s', inside, run⟩ := runs.exists_of_mem member
  exact ⟨starts o member, s', normal'.get?_of_mem (entered ▸ List.mem_append_left _ inside),
    run.state, run.turns⟩

end Outcomes

/-- **Servers are started all or none, but for permits that cannot be counted, and each of them
starts and stops by turns.**

Of a fleet of servers that have stopped, in whatever runs, all are started exactly if each finds a
place to listen and needs no more permits than can be counted. Else the first server that cannot be
started, in the order of the names, decides. If it finds no place to listen, that is the error, and
none runs. If its permits cannot be counted, its start breaks off, and those before it run on.

And whatever a single server is asked for, it refuses to start exactly if it runs, a start that
reports an error and a shutdown of a server that does not run change nothing, a shutdown of one that
runs leaves nothing of it, and its handlers are told of starts and stops by turns; if its permits
cannot be counted they are told of starts only, and it never runs. Handlers return from the calls
that are waited for, which events are not, unless a datagram has come. -/
theorem start_all_or_none (machines : String → Machine) (f : Fleet) (normal : f.servers.Normal)
    (still : ∀ e ∈ f.servers.instances.entries,
      Reached e.2 ∧ e.2.state = .stopped ∧ e.2.stuckStarting = false ∧ Prompt e.2) :
    (((f.startOn machines).1 = .ok () ↔
          ∀ e ∈ f.servers.instances.entries, Starts machines f.files e) ∧
        ((f.startOn machines).1 = .ok () → AllRun f (f.startOn machines).2) ∧
        (∀ e, (f.startOn machines).1 = .error (.reported e) →
          NoneRuns machines f (f.startOn machines).2 e) ∧
        ((f.startOn machines).1 = .error .brokenOff →
          BreaksOff machines f (f.startOn machines).2) ∧
        (f.startOn machines).1 ≠ .error .pending) ∧
    ∀ (name : String) (settings : ServerSettings) (handlers : HandlerList),
      Prompt { name, settings, handlers } → ∀ run : List Demand,
      (∀ demand ∈ run, Spared { name, settings, handlers } demand) →
      let s := demandAll { name, settings, handlers } run
      (s.state = .stopped ∨ s.state = .running) ∧
        (∀ machine files,
          (∃ name state, (s.start machine files).1 =
            .error (.reported (.invalidState name state))) ↔ s.state = .running) ∧
        (∀ machine files e, (s.start machine files).1 = .error (.reported e) →
          (s.start machine files).2.1 = s ∧
            files.Touched settings.socketPath?.toList (s.start machine files).2.2) ∧
        (∀ machine files, (s.start machine files).1 ≠ .error .pending ∧
          ((s.start machine files).1 = .error .brokenOff → s.isCountable = false)) ∧
        (s.state ≠ .running → ∀ meanwhile files,
          (s.winding meanwhile).finishShutdown files = (s, files)) ∧
        (s.state = .running → ∀ meanwhile files,
          Gone ((s.winding meanwhile).finishShutdown files).1) ∧
        ∃ n, s.journal.turns = rounds { name, settings, handlers } n ∧
          (s.state = .running ↔ s.isCountable ∧ n % 2 = 1) := by
  constructor
  · have steady : ∀ e ∈ f.servers.instances.entries, Steady e.2 ∧ e.2.state = .stopped :=
      fun e member => by
        obtain ⟨reached, stopped, started, prompt⟩ := still e member
        exact ⟨steady_of_reached reached stopped started prompt, stopped⟩
    have outcome := started_startOn machines normal steady
    generalize (f.startOn machines).1 = result at outcome
    generalize (f.startOn machines).2 = f' at outcome
    generalize entered : f'.servers.instances.entries = entries at outcome
    generalize left : f'.files = files at outcome
    cases outcome with
    | all starts runs placed =>
      exact ⟨iff_of_true rfl starts, fun _ => .of_become (entered ▸ runs) (left ▸ placed), nofun,
        nofun, nofun⟩
    | @none before later entries failing e _ split starts fails rests bared =>
      have member : failing ∈ f.servers.instances.entries :=
        split ▸ List.mem_append_right _ List.mem_cons_self
      have closed := fun all : ∀ e ∈ f.servers.instances.entries, Starts machines f.files e =>
        not_starts_of_listen fails (all failing member)
      refine ⟨iff_of_false nofun closed, nofun, fun e' same => ?_, nofun, nofun⟩
      obtain rfl := Breakdown.reported.inj (Except.error.inj same)
      refine .of_become normal split starts fails rests entered (fun o member => ?_) (left ▸ bared)
      obtain ⟨steady, stopped⟩ := steady o (split ▸ List.mem_append_right _ member)
      exact steady.gone stopped
    | @broke before later entries breaking _ split starts opens uncountable runs placed =>
      have member : breaking ∈ f.servers.instances.entries :=
        split ▸ List.mem_append_right _ List.mem_cons_self
      have closed := fun all : ∀ e ∈ f.servers.instances.entries, Starts machines f.files e =>
        not_starts_of_uncountable uncountable (all breaking member)
      obtain ⟨steady, stopped⟩ := steady breaking member
      exact ⟨iff_of_false nofun closed, nofun, nofun, fun _ => .of_become normal split starts opens
        uncountable runs steady stopped entered (left ▸ placed), nofun⟩
  · intro name settings handlers prompt run spared s
    obtain ⟨n, steady, kin, turns, running⟩ := exists_alternates_demandAll prompt spared
    refine ⟨?_, steady.exists_start_eq_invalidState_iff, fun machine files e fails => ?_,
      fun machine files => ?_, steady.finishShutdown_winding, fun runs meanwhile files => ?_,
      n, turns, running⟩
    · by_cases runs : s.state = .running
      · exact .inr runs
      · exact .inl (steady.stopped runs)
    · have kept := steady.start_of_reported fails
      rw [kin.settings] at kept
      exact kept
    · have attempt := steady.attempt machine files
      generalize (s.start machine files) = outcome at attempt ⊢
      cases attempt with
      | refused | failed | runs => exact ⟨nofun, nofun⟩
      | broke _ _ uncountable => exact ⟨nofun, fun _ => uncountable⟩
    · obtain ⟨steady, -, stopped, -⟩ := steady.shutdown runs meanwhile files
      exact steady.gone stopped

/-- A server of datagrams at a path, with a handler that has room for one event. -/
def serverAt (path : String) : Server where
  name := path
  settings := { kind := .unix, path }
  handlers := ⟨[.keeping "log" 1]⟩

theorem prompt_serverAt (path : String) : Prompt (serverAt path) := by
  have returns : ∀ c, (∀ info event, c ≠ .event info event) →
      Ending (serverAt path).handlers.handlers c := by
    intro c other h member calls hangs
    obtain rfl := List.mem_singleton.1 member
    cases c with
    | event info event => exact other info event rfl
    | started | stopped | opened | closed => cases hangs
  have hosting : Hosting (serverAt path).handlers.handlers :=
    ⟨fun _ => returns _ fun _ _ => Call.noConfusion,
      fun _ => returns _ fun _ _ => Call.noConfusion⟩
  exact ⟨returns _ fun _ _ => Call.noConfusion, returns _ fun _ _ => Call.noConfusion,
    fun _ => hosting⟩

/-- Three servers at paths, where there is a file in the place of the second. -/
def threeServers : Fleet where
  servers := { instances := .ofList [("a", serverAt "a"), ("b", serverAt "b"),
    ("c", serverAt "c")] }
  files := ({} : Files).put "b" .file

/-- Of three servers the second finds its path taken: the first is started and shut down again. -/
theorem start_of_three :
    let machines : String → Machine := fun _ => plainMachine
    ∃ e, (threeServers.startOn machines).1 = .error (.reported e) ∧
      NoneRuns machines threeServers (threeServers.startOn machines).2 e ∧
      ∃ n, (demandAll (serverAt "a")
        [.start plainMachine {}, .shutdown [] {}]).journal.turns = rounds (serverAt "a") n := by
  intro machines
  have normal : threeServers.servers.Normal := by
    show ∀ key ∈ ["a", "b", "c"], Registry.normalize key = key
    decide +kernel
  have listed : ∀ e ∈ threeServers.servers.instances.entries,
      e ∈ [("a", serverAt "a"), ("b", serverAt "b"), ("c", serverAt "c")] := fun _ => id
  have still : ∀ e ∈ threeServers.servers.instances.entries,
      Reached e.2 ∧ e.2.state = .stopped ∧ e.2.stuckStarting = false ∧ Prompt e.2 := by
    have one : ∀ path, Reached (serverAt path) ∧ (serverAt path).state = .stopped ∧
        (serverAt path).stuckStarting = false ∧ Prompt (serverAt path) :=
      fun path => ⟨⟨_, _, _, [], rfl⟩, rfl, rfl, prompt_serverAt path⟩
    intro e member
    have member := listed e member
    simp only [List.mem_cons, List.not_mem_nil, or_false] at member
    rcases member with rfl | rfl | rfl <;> exact one _
  obtain ⟨⟨started, -, fails, breaks, ends⟩, single⟩ :=
    start_all_or_none machines threeServers normal still
  obtain ⟨-, -, -, -, -, -, n, turns, -⟩ := single "a" (serverAt "a").settings
    (serverAt "a").handlers (prompt_serverAt "a") [.start plainMachine {}, .shutdown [] {}]
    (by simp [Spared, Demand.isDatagram])
  have taken : ¬ Opens machines threeServers.files ("b", serverAt "b") := by
    rintro ⟨place, opens⟩
    cases opens
  cases result : (threeServers.startOn machines).1 with
  | ok u =>
    exact absurd (started.1 result _ (List.mem_cons_of_mem _ List.mem_cons_self)).1 taken
  | error e =>
    cases e with
    | reported e => exact ⟨e, rfl, fails e result, n, turns⟩
    | pending => exact absurd result ends
    | brokenOff =>
      obtain ⟨-, _, breaking, _, split, -, -, uncountable, -⟩ := breaks result
      have member := listed breaking (split ▸ List.mem_append_right _ List.mem_cons_self)
      simp only [List.mem_cons, List.not_mem_nil, or_false] at member
      rcases member with rfl | rfl | rfl <;> cases uncountable

/-- A server of connections with more permits than can be counted, which its settings may ask for. -/
def uncountableServer : Server where
  name := "b"
  settings := { kind := .unix, socketType := .stream, path := "b", maxActiveSessions := 2 ^ 61 }
  handlers := ⟨[{ name := "log" }]⟩

/-- Of two servers both find a place to listen, but the start of the second breaks off. The first
runs on, the handlers of the second were told that it starts, and its socket is left. -/
theorem broken_off_without_rollback :
    let f : Fleet :=
      { servers := { instances := .ofList [("a", serverAt "a"), ("b", uncountableServer)] } }
    let after := (f.startAll plainMachine).2
    (uncountableServer.settings.check "b").isOk = true ∧
      (uncountableServer.settings.listen plainMachine {} "b").1.isOk = true ∧
      ((f.startAll plainMachine).1 matches .error .brokenOff) = true ∧
      (after.servers.get? "a").map (·.state) = some .running ∧
      (after.servers.get? "b").map (·.state) = some .stopped ∧
      (after.servers.get? "b").map (·.journal.calls.length) = some 1 ∧
      after.files.entry "b" = .socket := by
  decide +kernel

end Fleet

end Syslog
