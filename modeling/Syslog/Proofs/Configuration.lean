import Syslog.Client
import Syslog.Fleet
import Syslog.Proofs.Registry

/-!
# Names that a configuration is checked for, and names that are bound

A configuration is checked for a sender and a multi that have one name, in whatever letters of ASCII.
The registries in which its senders, multis and servers are bound then ask for more: they take names
as one that differ in blanks around them or in letters of any script, also of two senders, and no
name may be blank.

* `forM_eq_ok_iff`, `Checked`: what an accepted configuration satisfies;
* `outcome_network`, `outcome_fleet`: networks and fleets bind the names of a configuration one after
  the other;
* `names_of_accepted`: so the first fault of the names decides; names in the form that counts have
  none.
-/

namespace Syslog

/-! ## 1. Accepted configurations -/

theorem forM_eq_ok_iff {ε α : Type} {f : α → Except ε Unit} {l : List α} :
    l.forM f = .ok () ↔ ∀ x ∈ l, f x = .ok () := by
  induction l with
  | nil => exact ⟨fun _ _ member => (nomatch member), fun _ => rfl⟩
  | cons x rest ih =>
    rw [List.forall_mem_cons, ← ih]
    show f x >>= (fun _ => rest.forM f) = .ok () ↔ _
    cases f x with
    | error e => exact ⟨fun ok => (nomatch ok), fun ok => (nomatch ok.1)⟩
    | ok u => exact ⟨fun ok => ⟨rfl, ok⟩, fun ok => ok.2⟩

namespace Configuration

/-- What an accepted configuration satisfies. -/
structure Checked (c : Configuration) : Prop where
  senders : ∀ e ∈ c.senders.entries, e.2.check e.1 = .ok ()
  servers : ∀ e ∈ c.servers.entries, e.2.check e.1 = .ok ()
  names : ∀ multi ∈ c.multis.keys, ∀ sender ∈ c.senders.keys,
    Text.equalIgnoringAsciiCase sender multi = false

theorem checked_of_check {c : Configuration} (accepted : c.check = .ok ()) : Checked c := by
  obtain ⟨_, senders, others⟩ := exists_of_bind_eq_ok accepted
  obtain ⟨_, servers, names⟩ := exists_of_bind_eq_ok others
  refine ⟨forM_eq_ok_iff.1 senders, forM_eq_ok_iff.1 servers, fun multi member => ?_⟩
  have here := forM_eq_ok_iff.1 names multi member
  split at here
  · cases here
  · rename_i apart
    simpa using apart

theorem nodup_keys {α : Type} (d : Dict α) : d.keys.Nodup := by
  refine List.pairwise_map.2 (d.sorted.imp fun below same => ?_)
  rw [same] at below
  exact String.lt_irrefl _ below

/-- **The check is enough for names that are written in the form that counts.** -/
theorem Checked.apart {c : Configuration} (checked : Checked c)
    (normal : ∀ name ∈ c.senders.keys ++ c.multis.keys, Registry.normalize name = name)
    (named : "" ∉ c.senders.keys ++ c.multis.keys) :
    Registry.Apart (c.senders.keys ++ c.multis.keys) := by
  refine Registry.apart_of_normal normal named
    (List.nodup_append.2 ⟨nodup_keys _, nodup_keys _, fun sender inside multi among same => ?_⟩)
  have apart := checked.names multi among sender inside
  rw [same, Text.equalIgnoringAsciiCase, beq_self_eq_true] at apart
  cases apart

end Configuration

/-! ## 2. Networks -/

namespace Network

/-- The forms that are taken in a network. -/
def Holds (net : Network) (taken : List String) : Prop :=
  ∃ registry, net.registry = some registry ∧ registry.Holds taken

variable {net : Network} {taken : List String}

/-- A network binds the name of a target, or tells why not. -/
theorem outcome_register (holds : net.Holds taken) (name : String) (t : Target) :
    Registry.Outcome Holds .registry (Registry.normalize name :: taken)
      (Registry.fault? taken name) (net.register name t) := by
  obtain ⟨registry, present, held⟩ := holds
  have bound := Registry.outcome_register held name net.targets.length
  have same : net.register name t = ((registry.register name net.targets.length).mapError
      DeliveryError.registry).map fun registry =>
        { net with targets := net.targets ++ [t], registry := some registry } := by
    simp only [register, present, add]
    cases registry.register name net.targets.length <;> rfl
  rw [same]
  exact bound.lift fun registry held => ⟨registry, rfl, held⟩

/-- Why a name is not bound when the senders are opened. -/
def unbound (fault : RegistryError) : Breakdown DeliveryError := .reported (.registry fault)

theorem unbound_injective : Function.Injective unbound :=
  fun _ _ same => DeliveryError.registry.inj (Breakdown.reported.inj same)

/-- What is bound, or not, is so among work that can also come to nothing in other ways. -/
theorem outcome_report {fault : Option RegistryError} {result : Except DeliveryError Network}
    (h : Registry.Outcome Holds .registry taken fault result) :
    Registry.Outcome Holds unbound taken fault (Breakdown.report result) := by
  cases h with
  | refused fault => exact .refused fault
  | bound held => exact .bound held

/-- A sender that can be opened is bound; a name that is taken is refused even before. -/
theorem outcome_addSender (holds : net.Holds taken) {machine : Machine} {name : String}
    {settings : SenderSettings} {s : Sender} (opens : Sender.establish machine name settings = .ok s) :
    Registry.Outcome Holds unbound (Registry.normalize name :: taken)
      (Registry.fault? taken name) (net.addSender machine name settings) := by
  have bound := outcome_report (outcome_register holds name (.sender s))
  obtain ⟨registry, present, held⟩ := holds
  unfold addSender
  rw [present, opens]
  cases contains : registry.contains name with
  | false =>
    simp only [Option.map_some, Option.getD_some, contains, Bool.false_eq_true, if_false]
    exact bound
  | true =>
    have taken_before : Registry.normalize name ∈ taken := (held.bound _).1 contains
    have not_blank : Registry.normalize name ≠ "" := fun blank =>
      held.named (blank ▸ taken_before)
    have fault : Registry.fault? taken name = some (.duplicate (Registry.normalize name)) := by
      rw [Registry.fault?, if_neg not_blank, if_pos taken_before]
    rw [fault]
    simp only [Option.map_some, Option.getD_some, contains, if_true]
    exact .refused _

/-- **A network binds the names of senders and multis one after the other**, if its senders can be
opened. -/
theorem outcome_network {machine : Machine} {c : Configuration} (now : Time.DateTime)
    (opens : ∀ e ∈ c.senders.entries, ∃ s, Sender.establish machine e.1 e.2 = .ok s) :
    Registry.Outcome Holds unbound (Registry.takenAfter [] (c.senders.keys ++ c.multis.keys))
      (Registry.firstFault? [] (c.senders.keys ++ c.multis.keys))
      (ofConfiguration machine now c) := by
  let start : Network := { registry := some { suppressErrors := c.suppressErrors }, now }
  have held : start.Holds [] := ⟨_, rfl, Registry.holds_empty _⟩
  have senders : Registry.Outcome Holds unbound (Registry.takenAfter [] c.senders.keys)
      (Registry.firstFault? [] c.senders.keys)
      (c.senders.entries.foldlM (fun net e => net.addSender machine e.1 e.2) start) :=
    Registry.Outcome.foldlM (fun e member net taken holds => by
      obtain ⟨s, opened⟩ := opens e member
      exact outcome_addSender holds opened) held
  rw [Registry.firstFault?_append, Registry.takenAfter_append]
  exact senders.bind fun net holds => outcome_report (Registry.Outcome.foldlM
    (fun e _ net taken holds => outcome_register holds e.1 (.multi e.1 e.2)) holds)

end Network

/-! ## 3. Fleets -/

namespace Fleet

/-- A fleet binds the name of a server, or tells why not. -/
theorem outcome_create {f : Fleet} {taken : List String} (holds : f.servers.Holds taken)
    {name : String} {settings : ServerSettings} (checked : settings.check name = .ok ())
    (handlers : HandlerList) :
    Registry.Outcome (fun f taken => f.servers.Holds taken) .registry
      (Registry.normalize name :: taken) (Registry.fault? taken name)
      (f.create name settings handlers) := by
  have bound := Registry.outcome_register holds name ({ name, settings, handlers } : Server)
  have same : f.create name settings handlers =
      ((f.servers.register name { name, settings, handlers }).mapError
        ServerError.registry).map fun servers => { f with servers } := by
    have made : Server.make name settings = .ok { name, settings } := by
      simp only [Server.make, checked]
      rfl
    simp only [create, made, bind, Except.bind]
    generalize f.servers.register name { name, settings, handlers } = result
    cases result <;> rfl
  rw [same]
  exact bound.lift fun servers held => held

/-- **A fleet binds the names of accepted servers one after the other.** -/
theorem outcome_fleet {c : Configuration}
    (checked : ∀ e ∈ c.servers.entries, e.2.check e.1 = .ok ()) (handlers : HandlerList) :
    Registry.Outcome (fun f taken => f.servers.Holds taken) .registry
      (Registry.takenAfter [] c.servers.keys) (Registry.firstFault? [] c.servers.keys)
      (ofConfiguration c handlers) := by
  have servers : Registry.Outcome (fun f taken => f.servers.Holds taken) ServerError.registry
      (Registry.takenAfter [] c.servers.keys) (Registry.firstFault? [] c.servers.keys)
      (c.servers.entries.foldlM (fun (f : Fleet) e => f.create e.1 e.2 handlers) {}) :=
    Registry.Outcome.foldlM
      (fun e member _ _ holds => outcome_create holds (checked e member) handlers)
      (Registry.holds_empty false)
  exact servers

end Fleet

/-! ## 4. Names of accepted configurations -/

/-- **How the names of an accepted configuration are bound**, if its senders can be opened. The
network is made exactly if no name of a sender or a multi is blank and no two have one form, and the
fleet likewise for servers; otherwise the first fault is told. Names that are written in the form
that counts have none. -/
theorem names_of_accepted {c : Configuration} (accepted : c.check = .ok ()) {machine : Machine}
    (opens : ∀ e ∈ c.senders.entries, ∃ s, Sender.establish machine e.1 e.2 = .ok s)
    (now : Time.DateTime) (handlers : HandlerList) :
    let clients := c.senders.keys ++ c.multis.keys
    let servers := c.servers.keys
    ((∃ net, Network.ofConfiguration machine now c = .ok net) ↔ Registry.Apart clients) ∧
      (∀ fault, Network.ofConfiguration machine now c = .error (.reported (.registry fault)) ↔
        Registry.firstFault? [] clients = some fault) ∧
      ((∃ f, Fleet.ofConfiguration c handlers = .ok f) ↔ Registry.Apart servers) ∧
      (∀ fault, Fleet.ofConfiguration c handlers = .error (.registry fault) ↔
        Registry.firstFault? [] servers = some fault) ∧
      ((∀ name ∈ clients ++ servers, Registry.normalize name = name ∧ name ≠ "") →
        Registry.Apart clients ∧ Registry.Apart servers) := by
  intro clients servers
  have checked := Configuration.checked_of_check accepted
  have network := Network.outcome_network now opens
  have fleet := Fleet.outcome_fleet checked.servers handlers
  refine ⟨?_, ?_, ?_, ?_, fun plain => ⟨?_, ?_⟩⟩
  · rw [network.exists_ok_iff, Registry.firstFault?_eq_none_iff]
  · exact network.eq_error_iff Network.unbound_injective
  · rw [fleet.exists_ok_iff, Registry.firstFault?_eq_none_iff]
  · exact fleet.eq_error_iff fun _ _ => ServerError.registry.inj
  · exact checked.apart (fun name member => (plain name (List.mem_append_left _ member)).1)
      fun member => (plain "" (List.mem_append_left _ member)).2 rfl
  · exact Registry.apart_of_normal
      (fun name member => (plain name (List.mem_append_right _ member)).1)
      (fun member => (plain "" (List.mem_append_right _ member)).2 rfl) (Configuration.nodup_keys _)

/-- A machine on which no certificate is found. -/
def bareMachine : Machine where
  certificates _ := .error "not found"
  privateKey _ := .error "not found"

/-- A configuration with one sender, one multi and one server. -/
def oneEach (sender multi server : String) : Configuration where
  senders := .ofList [(sender, {})]
  multis := .ofList [(multi, {})]
  servers := .ofList [(server, {})]

theorem names_of_small_letters :
    let c := oneEach "a" "b" "a"
    let now : Time.DateTime := ⟨1970, 1, 1, 0, 0, 0, 0, by decide⟩
    c.check = .ok () ∧ (∃ net, Network.ofConfiguration bareMachine now c = .ok net) ∧
      ∃ f, Fleet.ofConfiguration c {} = .ok f := by
  intro c now
  have accepted : c.check = .ok () := rfl
  have opens : ∀ e ∈ c.senders.entries, ∃ s, Sender.establish bareMachine e.1 e.2 = .ok s := by
    intro e member
    obtain rfl := List.mem_singleton.1 member
    exact ⟨_, rfl⟩
  have normal : ∀ name ∈ ["a", "b", "a"], Registry.normalize name = name ∧ name ≠ "" := by
    decide +kernel
  obtain ⟨network, -, fleet, -, plain⟩ := names_of_accepted accepted opens now {}
  exact ⟨accepted, network.2 (plain normal).1, fleet.2 (plain normal).2⟩

/-- A sender and a multi whose names differ in a letter beyond ASCII are accepted, but not bound. -/
theorem accepted_and_not_bound :
    (oneEach "é" "É" "a").check = .ok () ∧
      Network.ofConfiguration bareMachine ⟨1970, 1, 1, 0, 0, 0, 0, by decide⟩ (oneEach "é" "É" "a") =
        .error (.reported (.registry (.duplicate "é"))) := by
  have opens : ∀ e ∈ (oneEach "é" "É" "a").senders.entries,
      ∃ s, Sender.establish bareMachine e.1 e.2 = .ok s := by
    intro e member
    obtain rfl := List.mem_singleton.1 member
    exact ⟨_, rfl⟩
  have twice : Registry.firstFault? [] ["é", "É"] = some (.duplicate "é") := by decide +kernel
  exact ⟨rfl, ((Network.outcome_network _ opens).eq_error_iff Network.unbound_injective _).2 twice⟩

end Syslog
