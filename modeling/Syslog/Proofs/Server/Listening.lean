import Syslog.Proofs.Registry
import Syslog.Server.Binding

/-!
# What listening leaves behind

A server that listens on a path puts a socket there, if there is nothing, or a socket that is left
over. Other files stay what they are, and nothing changes anywhere else.

* `Files.IsOpen`, `Files.Touched`: paths at which a socket may be put, and file systems that differ
  only in sockets at some paths;
* `Listened`, `listened_listen`: how it goes when a server listens;
* `Files.Placed`, `Files.Bared`: sockets are there, or are no longer;
* `Listened.touched`, `Listened.placed`, `Listened.bared`: what listening leaves, for one server and
  after others;
* `listen_fst_congr`: sockets keep nobody from listening.
-/

namespace Syslog

namespace Files

/-! ## 1. Sockets at paths -/

variable {f g h : Files} {path : String} {paths more : List String}

/-- Can a socket be put at the path? -/
def IsOpen (f : Files) (path : String) : Prop := f.entry path = .absent ∨ f.entry path = .socket

/-- Nothing has changed but where there are sockets, and that at some paths only. -/
def Touched (paths : List String) (f g : Files) : Prop :=
  ∀ p, g.entry p = f.entry p ∨ (p ∈ paths ∧ f.IsOpen p ∧ g.IsOpen p)

theorem Touched.refl (f : Files) : Touched paths f f := fun _ => .inl rfl

theorem Touched.isOpen_iff (touched : Touched paths f g) (path : String) :
    g.IsOpen path ↔ f.IsOpen path := by
  rcases touched path with same | ⟨-, before, after⟩
  · unfold IsOpen
    rw [same]
  · exact iff_of_true after before

theorem Touched.trans (first : Touched paths f g) (second : Touched paths g h) :
    Touched paths f h := by
  intro p
  rcases second p with same | ⟨member, before, after⟩
  · rcases first p with earlier | ⟨member, before, after⟩
    · exact .inl (same.trans earlier)
    · exact .inr ⟨member, before, by unfold IsOpen; rwa [same]⟩
  · exact .inr ⟨member, (first.isOpen_iff p).1 before, after⟩

theorem Touched.mono (touched : Touched paths f g) (fewer : paths ⊆ more) : Touched more f g :=
  fun p => (touched p).imp_right fun ⟨member, both⟩ => ⟨fewer member, both⟩

theorem touched_put {e : PathEntry} (before : f.IsOpen path) (after : e = .absent ∨ e = .socket) :
    Touched [path] f (f.put path e) := by
  intro p
  by_cases here : p = path
  · subst here
    refine .inr ⟨List.mem_singleton_self p, before, ?_⟩
    unfold IsOpen
    rwa [entry_put_self]
  · exact .inl (f.entry_put_of_ne here e)

theorem touched_remove (before : f.IsOpen path) : Touched [path] f (f.remove path) := by
  unfold remove
  split
  · exact touched_put before (.inl rfl)
  · exact touched_put before (.inl rfl)
  · exact .refl f
  · exact .refl f

/-- Taking something away puts no socket anywhere. -/
theorem entry_remove_ne_socket_of_ne {p : String} (before : f.entry p ≠ .socket) (path : String) :
    (f.remove path).entry p ≠ .socket := by
  by_cases here : p = path
  · exact here ▸ f.entry_remove_ne_socket path
  · rwa [f.entry_remove_of_ne here]

/-- There are sockets at these paths now, and nothing else has changed. -/
structure Placed (paths : List String) (f g : Files) : Prop where
  touched : Touched paths f g
  sockets : ∀ p ∈ paths, g.entry p = .socket

/-- There are no sockets at these paths any more, and nothing else has changed. -/
structure Bared (paths : List String) (f g : Files) : Prop where
  touched : Touched paths f g
  bare : ∀ p ∈ paths, g.entry p ≠ .socket

theorem Placed.refl (f : Files) : Placed [] f f := ⟨.refl f, nofun⟩

/-- The files without what is at some paths. -/
def removeAll (f : Files) (paths : List String) : Files := paths.foldl remove f

theorem touched_removeAll (before : ∀ p ∈ paths, f.IsOpen p) :
    Touched paths f (f.removeAll paths) := by
  induction paths generalizing f with
  | nil => exact .refl f
  | cons path rest ih =>
    obtain ⟨here, others⟩ := List.forall_mem_cons.1 before
    have first := touched_remove here
    have all := ih fun p member => (first.isOpen_iff p).2 (others p member)
    exact (first.mono (List.cons_subset.2 ⟨List.mem_cons_self, List.nil_subset _⟩)).trans
      (all.mono (List.subset_cons_self path rest))

theorem entry_removeAll_ne_socket_of_ne {p : String} (before : f.entry p ≠ .socket)
    (paths : List String) : (f.removeAll paths).entry p ≠ .socket := by
  induction paths generalizing f with
  | nil => exact before
  | cons path rest ih => exact ih (entry_remove_ne_socket_of_ne before path)

theorem entry_removeAll_ne_socket {p : String} (member : p ∈ paths) (f : Files) :
    (f.removeAll paths).entry p ≠ .socket := by
  induction paths generalizing f with
  | nil => cases member
  | cons path rest ih =>
    rcases List.mem_cons.1 member with rfl | later
    · exact entry_removeAll_ne_socket_of_ne (f.entry_remove_ne_socket p) rest
    · exact ih later _

end Files

namespace ServerSettings

/-! ## 2. Listening -/

variable {machine : Machine} {files files' : Files} {s : ServerSettings} {owner : String}

/-- The path at which the server puts a socket. -/
def socketPath? (s : ServerSettings) : Option String := if s.kind = .unix then some s.path else none

/-- How it goes when a server listens. -/
inductive Listened (files : Files) (s : ServerSettings) : Except ServerError Place × Files → Prop
  /-- It listens on an address, or does not get so far. -/
  | elsewhere {found : Except ServerError Place} (inside : s.socketPath? = none)
      (nowhere : ∀ place, found = .ok place → place.socketPath = none) :
      Listened files s (found, files)
  /-- Something else than a socket is there. -/
  | taken {e : ServerError} (unix : s.socketPath? = some s.path) (full : ¬ files.IsOpen s.path) :
      Listened files s (.error e, files)
  | refused {e : ServerError} (unix : s.socketPath? = some s.path) (free : files.IsOpen s.path) :
      Listened files s (.error e, files.remove s.path)
  | bound {name : String} (unix : s.socketPath? = some s.path) (free : files.IsOpen s.path) :
      Listened files s
        (.ok { name, socketPath := some s.path }, files.put s.path .socket)

theorem socketPath_of_listenOnAddress {place : Place}
    (listens : s.listenOnAddress machine = .ok place) : place.socketPath = none := by
  obtain ⟨address, -, binds⟩ := exists_of_bind_eq_ok listens
  obtain ⟨address', -, found⟩ := exists_of_bind_eq_ok binds
  obtain rfl := Except.ok.inj found
  rfl

theorem listened_listenOnPath (unix : s.socketPath? = some s.path) :
    Listened files s (s.listenOnPath machine files) := by
  unfold listenOnPath
  split
  · rename_i there
    exact .taken unix (by unfold Files.IsOpen; rw [there]; decide)
  · rename_i there
    exact .taken unix (by unfold Files.IsOpen; rw [there]; decide)
  · rename_i there
    split
    · exact .refused unix (.inl there)
    · exact .bound unix (.inl there)
  · rename_i there
    split
    · exact .refused unix (.inr there)
    · exact .bound unix (.inr there)

/-- **A server listens in one of these ways.** -/
theorem listened_listen (machine : Machine) (files : Files) (s : ServerSettings) (owner : String) :
    Listened files s (s.listen machine files owner) := by
  have inside : s.kind ≠ .unix → s.socketPath? = none := fun other => if_neg other
  have onAddress : ∀ place, s.listenOnAddress machine = .ok place → place.socketPath = none :=
    fun _ => socketPath_of_listenOnAddress
  unfold listen
  split
  · rename_i kind
    exact .elsewhere (inside (kind ▸ nofun)) onAddress
  · rename_i kind
    exact .elsewhere (inside (kind ▸ nofun)) onAddress
  · rename_i kind
    split
    · rename_i tls _
      refine .elsewhere (inside (kind ▸ nofun)) fun place listens => ?_
      obtain ⟨-, -, found⟩ := exists_of_bind_eq_ok listens
      exact onAddress place found
    · exact .elsewhere (inside (kind ▸ nofun)) nofun
  · rename_i kind
    exact listened_listenOnPath (if_pos kind)

/-- **Listening changes nothing but the socket of the server.** -/
theorem Listened.touched {after : Except ServerError Place × Files}
    (listened : Listened files s after) : Files.Touched s.socketPath?.toList files after.2 := by
  cases listened with
  | elsewhere | taken => exact .refl files
  | refused unix free =>
    rw [unix]
    exact Files.touched_remove free
  | bound unix free =>
    rw [unix]
    exact Files.touched_put free (.inr rfl)

/-- A server that listens on a path has put its socket there. -/
theorem Listened.entry_of_ok {place : Place} (listened : Listened files s (.ok place, files')) :
    place.socketPath = s.socketPath? ∧
      ∀ path, s.socketPath? = some path → files'.entry path = .socket := by
  cases listened with
  | elsewhere inside nowhere =>
    refine ⟨(nowhere place rfl).trans inside.symm, fun path same => ?_⟩
    rw [inside] at same
    cases same
  | bound unix free =>
    refine ⟨unix.symm, fun path same => ?_⟩
    rw [unix] at same
    cases same
    exact files.entry_put_self s.path .socket

/-- A server that cannot listen leaves no socket at its path. -/
theorem Listened.entry_of_error {e : ServerError} (listened : Listened files s (.error e, files'))
    {path : String} (own : s.socketPath? = some path) : files'.entry path ≠ .socket := by
  cases listened with
  | elsewhere inside nowhere =>
    rw [inside] at own
    cases own
  | taken unix full =>
    rw [unix] at own
    cases own
    exact fun socket => full (.inr socket)
  | refused unix free =>
    rw [unix] at own
    cases own
    exact files.entry_remove_ne_socket s.path

/-- One more server listens. -/
theorem Listened.placed {paths : List String} {before : Files} {place : Place}
    (listened : Listened files s (.ok place, files')) (placed : Files.Placed paths before files) :
    Files.Placed (paths ++ s.socketPath?.toList) before files' := by
  have touched := listened.touched
  refine ⟨(placed.touched.mono (List.subset_append_left ..)).trans
    (touched.mono (List.subset_append_right ..)), fun p member => ?_⟩
  have own : p ∈ s.socketPath?.toList → files'.entry p = .socket := fun here =>
    listened.entry_of_ok.2 p (Option.mem_toList.1 here)
  rcases List.mem_append.1 member with early | here
  · rcases touched p with same | ⟨here, -, -⟩
    · exact same.trans (placed.sockets p early)
    · exact own here
  · exact own here

/-- One server cannot listen, and the sockets of those before it are taken away. -/
theorem Listened.bared {paths : List String} {before : Files} {e : ServerError}
    (listened : Listened files s (.error e, files')) (placed : Files.Placed paths before files) :
    Files.Bared (paths ++ s.socketPath?.toList) before (files'.removeAll paths) := by
  have touched := listened.touched
  have isOpen : ∀ p ∈ paths, files'.IsOpen p := fun p member =>
    (touched.isOpen_iff p).2 (.inr (placed.sockets p member))
  have early : paths ⊆ paths ++ s.socketPath?.toList := List.subset_append_left ..
  refine ⟨((placed.touched.mono early).trans (touched.mono (List.subset_append_right ..))).trans
    ((Files.touched_removeAll isOpen).mono early), fun p member => ?_⟩
  rcases List.mem_append.1 member with early | here
  · exact Files.entry_removeAll_ne_socket early files'
  · exact Files.entry_removeAll_ne_socket_of_ne
      (listened.entry_of_error (Option.mem_toList.1 here)) paths

/-- **Sockets keep nobody from listening**: what comes of it depends on other files only. -/
theorem listen_fst_congr (same : ∀ path, files'.IsOpen path ↔ files.IsOpen path)
    (machine : Machine) (s : ServerSettings) (owner : String) :
    (s.listen machine files' owner).1 = (s.listen machine files owner).1 := by
  have onPath : (s.listenOnPath machine files').1 = (s.listenOnPath machine files).1 := by
    have here := same s.path
    unfold Files.IsOpen at here
    unfold listenOnPath
    cases there : files.entry s.path <;> cases there' : files'.entry s.path <;>
      simp only [there, there', reduceCtorEq, or_self, or_false, or_true, iff_true, iff_false,
        not_true_eq_false] at here ⊢ <;>
      split <;> rfl
  unfold listen
  split
  · rfl
  · rfl
  · split <;> rfl
  · exact onPath

/-! ## 3. Errors -/

/-- An error that neither of two steps gives is not given by both. -/
theorem bind_ne_error {α β : Type} {e : ServerError} {result : Except ServerError α}
    {next : α → Except ServerError β} (first : result ≠ .error e)
    (second : ∀ a, next a ≠ .error e) : result >>= next ≠ .error e := by
  cases result with
  | error e' => exact fun same => first (congrArg _ (Except.error.inj same))
  | ok a => exact second a

theorem mapError_ne_error {ε α : Type} {e : ServerError} {wrap : ε → ServerError}
    (other : ∀ e', wrap e' ≠ e) (result : Except ε α) : result.mapError wrap ≠ .error e := by
  cases result with
  | error e' => exact fun same => other e' (Except.error.inj same)
  | ok a => nofun

/-- A server that finds no place to listen does not say that it is in the wrong state. -/
theorem listen_ne_invalidState (settings : ServerSettings) (machine : Machine) (files : Files)
    (owner name : String) (state : ServerState) :
    (settings.listen machine files owner).1 ≠ .error (.invalidState name state) := by
  have onAddress : settings.listenOnAddress machine ≠ .error (.invalidState name state) :=
    bind_ne_error (mapError_ne_error nofun _) fun _ =>
      bind_ne_error (mapError_ne_error nofun _) nofun
  unfold listen
  split
  · exact onAddress
  · exact onAddress
  · split
    · exact bind_ne_error (mapError_ne_error nofun _) fun _ => onAddress
    · nofun
  · unfold listenOnPath
    split
    · nofun
    · nofun
    · split <;> nofun
    · split <;> nofun

end ServerSettings

end Syslog
