import Syslog.Proofs.Delivery.Depth
import Syslog.Proofs.Dict

/-!
# Cycles are refused, and nothing else is

Senders with delegates and multis may name one another in a circle. A message that comes back to a
target which it has passed is refused there, so that deliveries never go on for ever.

* `Named`: a registry that holds each target under its own name; `Named.register`;
* `Visit.Refused`, `Request.Refused`: who refuses, by the names on the route;
* `Passed`: the route names the targets that the message has passed; `Passed.request_refused_iff`:
  a name is refused just when it stands for one of them;
* `Visit.Placed`: where a visit stands; `Nested.placed`: of the targets that are at work inside one
  another each is so once;
* `Visit.Placed.within`: where targets bear their own names, these are different too;
* `send_refuses_cycles`: a message that is sent.
-/

namespace Syslog

namespace Network

/-! ## 1. Targets under their own names -/

/-- The registry of the network holds each target under its own name. -/
structure Named (net : Network) (registry : Registry Nat) : Prop where
  present : net.registry = some registry
  own : ∀ key id, registry.instances.get? key = some id →
    ∃ t, net.targets[id]? = some t ∧ Registry.normalize t.name = key

/-- Does a name stand for the target at the position? -/
def Registered (registry : Registry Nat) (id : Nat) : Prop :=
  ∃ name, registry.get? name = some id

variable {net net' : Network} {registry : Registry Nat} {id : Nat}

/-- A registered target is found under its own name. -/
theorem Named.get?_name (named : net.Named registry) (registered : Registered registry id)
    {t : Target} (here : net.targets[id]? = some t) : registry.get? t.name = some id := by
  obtain ⟨name, bound⟩ := registered
  obtain ⟨t', here', key⟩ := named.own _ _ bound
  obtain rfl := Option.some.inj (here.symm.trans here')
  rwa [Registry.get?, key]

theorem Named.same (named : net.Named registry) (same : net.SameTargets net') :
    net'.Named registry := by
  refine ⟨same.registry.trans named.present, fun key id bound => ?_⟩
  obtain ⟨t, here, name⟩ := named.own key id bound
  obtain ⟨t', here', name', -⟩ := same.target here
  exact ⟨t', here', by rw [name', name]⟩

/-- A target that is added under its own name leaves the others under theirs. -/
theorem Named.register (named : net.Named registry) {t : Target}
    (done : net.register t.name t = .ok net') : ∃ registry', net'.Named registry' := by
  simp only [Network.register, named.present, add, Registry.register] at done
  split at done <;> rename_i result added
  · obtain rfl := Except.ok.inj done
    refine ⟨result, rfl, fun key id bound => ?_⟩
    split at added
    · cases added
    · split at added
      · cases added
      · obtain rfl := Except.ok.inj added
        rw [Dict.get?_insert] at bound
        split at bound
        · obtain rfl := Option.some.inj bound
          rename_i key
          exact ⟨t, by simp, key.symm⟩
        · obtain ⟨old, here, name⟩ := named.own key id bound
          obtain ⟨inside, -⟩ := List.getElem?_eq_some_iff.1 here
          exact ⟨old, by rw [List.getElem?_append_left inside, here], name⟩
  · cases done

/-- There are no more targets under names than names. -/
theorem length_le_size {ids : List Nat} (nodup : ids.Nodup)
    (registered : ∀ id ∈ ids, Registered registry id) : ids.length ≤ registry.size := by
  have among : ids ⊆ registry.instances.values := fun id member => by
    obtain ⟨name, bound⟩ := registered id member
    obtain ⟨before, after, entries, -⟩ := List.lookup_eq_some_iff.1 bound
    exact List.mem_map.2 ⟨(Registry.normalize name, id), by rw [entries]; simp, rfl⟩
  have fewer := (List.subperm_of_subset nodup among).length_le
  rwa [Dict.values, List.length_map] at fewer

end Network

open Network

/-! ## 2. Refusals -/

/-- The target looks at the route and finds its own name there. -/
def Visit.Refused (v : Visit) : Prop :=
  ∃ t, v.net.targets[v.target]? = some t ∧ t.looks = true ∧ v.route.contains t.name = true

/-- The one who asks finds the name on the route, or the target does. -/
def Request.Refused (q : Request) : Prop :=
  q.route.contains q.checked = true ∨ ∃ v, q.visit? = some v ∧ v.Refused

/-- A request that is not refused brings the message to its target, which does not refuse it. -/
theorem Request.visit_of_accepted {q : Request} (accepts : ¬ q.Refused) {id : Nat}
    (found : q.target? = some id) :
    ∃ v, q.visit? = some v ∧ v.target = id ∧ ¬ v.Refused ∧
      ∀ next, q.settle next = v.outcome next := by
  have new : q.route.contains q.checked = false := by
    by_contra passed
    exact accepts (.inl (by simpa using passed))
  have visited : q.visit? = some ⟨q.route, id, q.message, q.net⟩ :=
    Request.visit?_eq_some.2 ⟨new, id, found, rfl⟩
  exact ⟨_, visited, rfl, fun refused => accepts (.inr ⟨_, visited, refused⟩),
    fun next => Request.settle_of_visit visited⟩

/-- A target that refuses does nothing else. -/
theorem Visit.Refused.outcome {v : Visit} (refused : v.Refused) :
    ∃ t, v.net.targets[v.target]? = some t ∧
      ∀ next, v.outcome (deliverStep next) = refuse t.name v.net := by
  obtain ⟨t, here, looks, passed⟩ := refused
  refine ⟨t, here, fun next => ?_⟩
  simp only [Visit.outcome, deliverStep, here]
  cases t with
  | sender s => exact if_pos passed
  | multi name settings => exact if_pos passed
  | external => cases looks

/-! ## 3. Routes and positions -/

/-- The hops of the route are the names of the targets at the positions. Each of them looks at
routes and is registered, and there are the same targets now. -/
structure Passed (net : Network) (registry : Registry Nat) (ids : List Nat) (route : Route)
    (now : Network) : Prop where
  same : net.SameTargets now
  hops : ids.map (fun id => net.targets[id]?.map (·.name)) = route.hops.map some
  each : ∀ id ∈ ids, Registered registry id ∧ ∃ t, net.targets[id]? = some t ∧ t.looks = true

namespace Passed

variable {net now now' : Network} {registry : Registry Nat} {ids : List Nat} {route : Route}

/-- A name on the route stands for a target that was passed. -/
theorem mem_of_contains (passed : Passed net registry ids route now) (named : net.Named registry)
    {name : String} (h : route.contains name = true) :
    ∃ id ∈ ids, registry.get? name = some id := by
  obtain ⟨hop, member, equal⟩ := List.any_eq_true.1 h
  have listed : some hop ∈ ids.map fun id => net.targets[id]?.map (·.name) := by
    rw [passed.hops]
    exact List.mem_map_of_mem member
  obtain ⟨id, inside, name_eq⟩ := List.mem_map.1 listed
  obtain ⟨t, here, rfl⟩ := Option.map_eq_some_iff.1 name_eq
  refine ⟨id, inside, ?_⟩
  -- the route takes fewer names for one than the registry does
  rw [Registry.get?, ← Registry.normalize_eq_of_equalIgnoringAsciiCase equal]
  exact named.get?_name (passed.each id inside).1 here

/-- The name of a target that was passed is on the route. -/
theorem contains_of_mem (passed : Passed net registry ids route now) {id : Nat} (inside : id ∈ ids)
    {t : Target} (here : net.targets[id]? = some t) : route.contains t.name = true := by
  have listed : some t.name ∈ route.hops.map some := by
    rw [← passed.hops]
    exact List.mem_map.2 ⟨id, inside, by rw [here, Option.map_some]⟩
  obtain ⟨hop, member, eq⟩ := List.mem_map.1 listed
  obtain rfl := Option.some.inj eq
  exact List.any_eq_true.2 ⟨_, member, Text.equalIgnoringAsciiCase_refl _⟩

/-- One target more. -/
theorem extend (passed : Passed net registry ids route now) {id : Nat}
    (registered : Registered registry id) {t : Target} (here : now.targets[id]? = some t)
    (looks : t.looks = true) (same : now.SameTargets now') :
    Passed net registry (ids ++ [id]) (route.extend t.name) now' := by
  obtain ⟨t', here', name, looks'⟩ := passed.same.symm.target here
  refine ⟨passed.same.trans same, ?_, fun other member => ?_⟩
  · simp [passed.hops, here', name, Route.extend]
  · rcases List.mem_append.1 member with before | last
    · exact passed.each other before
    · obtain rfl := List.mem_singleton.1 last
      exact ⟨registered, t', here', looks'.trans looks⟩

/-- **A target refuses just when it was passed.** -/
theorem visit_refused_iff {v : Visit} (passed : Passed net registry ids v.route v.net)
    (named : net.Named registry) (registered : Registered registry v.target) :
    v.Refused ↔ v.target ∈ ids := by
  constructor
  · rintro ⟨t, here, -, contains⟩
    obtain ⟨id, inside, bound⟩ := passed.mem_of_contains named contains
    have own := (named.same passed.same).get?_name registered here
    obtain rfl := Option.some.inj (bound.symm.trans own)
    exact inside
  · intro inside
    obtain ⟨-, t, here, looks⟩ := passed.each v.target inside
    obtain ⟨t', here', name, looks'⟩ := passed.same.target here
    exact ⟨t', here', looks'.trans looks, name ▸ passed.contains_of_mem inside here⟩

/-- The targets that a request can stand for are registered. -/
theorem target?_eq (named : net.Named registry) {q : Request} (same : net.SameTargets q.net) :
    q.target? = registry.get? q.name := by
  rw [Request.target?, (named.same same).present, Option.bind_some]

/-- **A request is refused just when its name stands for a target that was passed.** -/
theorem request_refused_iff {q : Request} (passed : Passed net registry ids q.route q.net)
    (named : net.Named registry)
    (checked : Registry.normalize q.checked = Registry.normalize q.name) :
    q.Refused ↔ ∃ id ∈ ids, q.target? = some id := by
  rw [target?_eq named passed.same]
  constructor
  · rintro (contains | ⟨v, visited, refused⟩)
    · obtain ⟨id, inside, bound⟩ := passed.mem_of_contains named contains
      exact ⟨id, inside, by rwa [Registry.get?, ← checked]⟩
    · obtain ⟨-, id, bound, rfl⟩ := Request.visit?_eq_some.1 visited
      rw [target?_eq named passed.same] at bound
      exact ⟨id, (visit_refused_iff passed named ⟨_, bound⟩).1 refused, bound⟩
  · rintro ⟨id, inside, bound⟩
    cases contains : q.route.contains q.checked with
    | true => exact .inl contains
    | false =>
      have visited : q.visit? = some ⟨q.route, id, q.message, q.net⟩ :=
        Request.visit?_eq_some.2 ⟨contains, id, by rw [target?_eq named passed.same, bound], rfl⟩
      exact .inr ⟨_, visited, (visit_refused_iff passed named ⟨_, bound⟩).2 inside⟩

end Passed

/-! ## 4. Visits inside one another -/

section Nesting

variable {next : Delivery} {net : Network} {registry : Registry Nat} {ids : List Nat} {v : Visit}

/-- Where a visit stands: the targets before it and its own. -/
structure Visit.Placed (net : Network) (registry : Registry Nat) (ids : List Nat) (v : Visit) :
    Prop where
  passed : Passed net registry ids v.route v.net
  registered : Registered registry v.target
  nodup : ids.Nodup

/-- A target that does not refuse was not passed before. -/
theorem Visit.Placed.nodup_target (placed : v.Placed net registry ids) (named : net.Named registry)
    (accepts : ¬ v.Refused) : (ids ++ [v.target]).Nodup := by
  have apart : v.target ∉ ids := fun inside =>
    accepts ((placed.passed.visit_refused_iff named placed.registered).2 inside)
  rw [← List.concat_eq_append]
  exact List.Nodup.concat apart placed.nodup

/-- The targets at work are registered, and so is the one that is visited. -/
theorem Visit.Placed.known (placed : v.Placed net registry ids) :
    ∀ id ∈ ids ++ [v.target], Registered registry id := by
  intro id member
  rcases List.mem_append.1 member with before | last
  · exact (placed.passed.each id before).1
  · exact List.mem_singleton.1 last ▸ placed.registered

/-- A target that asks does not refuse; now it was passed. -/
theorem Visit.Placed.asks (placed : v.Placed net registry ids) (named : net.Named registry)
    (keeps : Keeps next) {q : Request} (asks : Asks next v q) :
    Passed net registry (ids ++ [v.target]) q.route q.net ∧ (ids ++ [v.target]).Nodup ∧
      Registry.normalize q.checked = Registry.normalize q.name := by
  obtain ⟨same, checked, t, here, looks, new, route⟩ := asks.frame keeps
  have accepts : ¬ v.Refused := by
    rintro ⟨t', here', -, contains⟩
    obtain rfl := Option.some.inj (here.symm.trans here')
    rw [new] at contains
    cases contains
  exact ⟨route ▸ placed.passed.extend placed.registered here looks same,
    placed.nodup_target named accepts, checked⟩

/-- The visits of a request stand behind the one who asks. -/
theorem Visit.Placed.visited (placed : v.Placed net registry ids) (named : net.Named registry)
    (keeps : Keeps next) {q : Request} (asks : Asks next v q) {v' : Visit}
    (visited : q.visit? = some v') : v'.Placed net registry (ids ++ [v.target]) := by
  obtain ⟨passed, nodup, -⟩ := placed.asks named keeps asks
  obtain ⟨-, id, found, rfl⟩ := Request.visit?_eq_some.1 visited
  exact ⟨passed, ⟨q.name, by rw [← Passed.target?_eq named passed.same, found]⟩, nodup⟩

/-- **No target is at work twice.** -/
theorem Nested.placed {first : Visit} (named : net.Named registry) (keeps : Keeps next)
    (start : first.Placed net registry []) (nested : Nested next first ids v) :
    v.Placed net registry ids := by
  induction nested with
  | start => exact start
  | ask inner asks visited ih => exact ih.visited named keeps asks visited

/-- Different targets have different names, and so the route has different hops. -/
theorem Visit.Placed.within (placed : v.Placed net registry ids) (named : net.Named registry) :
    v.Within net := by
  refine ⟨placed.passed.same, ?_, fun hop member => ?_⟩
  · have distinct : (ids.map fun id => net.targets[id]?.map (·.name)).Nodup := by
      refine List.Nodup.map_on (fun id inside id' inside' same => ?_) placed.nodup
      obtain ⟨registered, t, here, -⟩ := placed.passed.each id inside
      obtain ⟨registered', t', here', -⟩ := placed.passed.each id' inside'
      rw [here, here'] at same
      have name : t.name = t'.name := Option.some.inj same
      have bound := named.get?_name registered here
      rw [name, named.get?_name registered' here'] at bound
      exact (Option.some.inj bound).symm
    rw [placed.passed.hops] at distinct
    exact distinct.of_map some
  · have listed : some hop ∈ v.route.hops.map some := List.mem_map_of_mem member
    rw [← placed.passed.hops] at listed
    obtain ⟨id, -, name_eq⟩ := List.mem_map.1 listed
    obtain ⟨t, here, rfl⟩ := Option.map_eq_some_iff.1 name_eq
    exact List.mem_map_of_mem (List.mem_of_getElem? here)

end Nesting

/-! ## 5. Messages that are sent -/

section Sending

variable {net : Network} {registry : Registry Nat} {ids : List Nat} {v : Visit} {id : Nat}

theorem Visit.Placed.ends_routed (placed : v.Placed net registry ids) (named : net.Named registry) :
    Ends v (v.outcome routed) :=
  (placed.within named).ends_routed

theorem Visit.Placed.outcome_routed (placed : v.Placed net registry ids)
    (named : net.Named registry) : v.outcome routed = v.outcome (deliverStep routed) :=
  (placed.within named).outcome_routed

/-- The first visit stands before all others. -/
theorem Visit.Placed.first (registered : Registered registry id) (m : Message) :
    Visit.Placed net registry [] ⟨{}, id, m, net⟩ :=
  ⟨⟨.refl net, rfl, by simp⟩, registered, List.nodup_nil⟩

/-- A request that is refused comes to an error that names the target in some spelling, and nothing
else happens. -/
theorem Passed.settle_of_refused {q : Request} (passed : Passed net registry ids q.route q.net)
    (named : net.Named registry)
    (checked : Registry.normalize q.checked = Registry.normalize q.name) (refused : q.Refused) :
    ∃ name, Registry.normalize name = Registry.normalize q.name ∧
      q.settle routed = refuse name q.net := by
  rcases refused with contains | ⟨v, visited, refused⟩
  · exact ⟨q.checked, checked, if_pos contains⟩
  · rw [Request.settle_of_visit visited]
    obtain ⟨t, here, outcome⟩ := refused.outcome
    obtain ⟨-, id, found, rfl⟩ := Request.visit?_eq_some.1 visited
    rw [target?_eq named passed.same] at found
    obtain ⟨t', here', key⟩ := (named.same passed.same).own _ _ found
    obtain rfl := Option.some.inj (here.symm.trans here')
    refine ⟨t.name, key, ?_⟩
    rw [Visit.outcome_routed_eq, deliver, outcome]

/-- **A message that is sent comes to an end; cycles are refused, and nothing else is.** What comes
of a visit is what its target does in one step, with further visits of the same kind. The targets at
work inside one another are different ones, so that there are no more of them than names; one visit
more may be refused. A request is refused just when its name stands for one of those at work, who
are the hops of its route, and then nothing happens; else its target takes the message. -/
theorem send_refuses_cycles (named : net.Named registry) (registered : Registered registry id)
    (m : Message) :
    let first : Visit := ⟨{}, id, m, net⟩
    (∀ out, Ends first out ↔ out = net.send id m) ∧
    ∀ ids v, Nested routed first ids v →
      v.outcome routed = v.outcome (deliverStep routed) ∧
      (v.Refused ↔ v.target ∈ ids) ∧
      ids.Nodup ∧ ids.length ≤ registry.size ∧
      (¬ v.Refused → (ids ++ [v.target]).Nodup ∧ (ids ++ [v.target]).length ≤ registry.size) ∧
      ∀ q, Asks routed v q →
        (ids ++ [v.target]).map (fun id => net.targets[id]?.map (·.name)) =
          q.route.hops.map some ∧
        (q.Refused ↔ ∃ id ∈ ids ++ [v.target], q.target? = some id) ∧
        (q.Refused → ∃ name, Registry.normalize name = Registry.normalize q.name ∧
          q.settle routed = (.error (.config (.selfDelegation name)), q.net)) ∧
        (¬ q.Refused → ∀ id, q.target? = some id → ∃ v', q.visit? = some v' ∧ v'.target = id ∧
          ¬ v'.Refused ∧ q.settle routed = v'.outcome routed) := by
  intro first
  have start : first.Placed net registry [] := .first registered m
  have ends : Ends first (net.send id m) := start.ends_routed named
  refine ⟨fun out => ⟨fun h => ends.unique h, fun h => h ▸ ends⟩, fun ids v nested => ?_⟩
  have placed := nested.placed named routed_keeps start
  have known := placed.known
  refine ⟨placed.outcome_routed named, placed.passed.visit_refused_iff named placed.registered,
    placed.nodup, ?_, fun accepts => ?_, fun q asks => ?_⟩
  · exact length_le_size placed.nodup fun id inside => known id (List.mem_append_left _ inside)
  · have nodup := placed.nodup_target named accepts
    exact ⟨nodup, length_le_size nodup known⟩
  · obtain ⟨passed, -, checked⟩ := placed.asks named routed_keeps asks
    refine ⟨passed.hops, passed.request_refused_iff named checked,
      passed.settle_of_refused named checked, fun accepts id found => ?_⟩
    obtain ⟨v', visited, target, accepts', outcome⟩ := Request.visit_of_accepted accepts found
    exact ⟨v', visited, target, accepts', outcome routed⟩

/-- A sender that cannot write delegates to a multi that sends to it, with blanks around its name.
The multi does not see that the name is on the route, but the sender itself does. -/
theorem send_refuses_cycles_of_blanks :
    let sender : Sender :=
      { name := "A", settings := {}, chain := {}, host := "h",
        backlog := { handlers := [.delegate " b " true] },
        link := { target := "peer", outcomes := .always (.error .closed) } }
    let registry : Registry Nat := { instances := (Dict.empty.insert "a" 0).insert "b" 1 }
    let net : Network :=
      { targets := [.sender sender, .multi "B" ⟨[" a "]⟩], registry := some registry,
        now := ⟨1970, 1, 1, 0, 0, 0, 0, by decide⟩ }
    let m : Message := { facility := .user, severity := .info, body := "x" }
    net.Named registry ∧ Registered registry 0 ∧
      ∃ v q, Nested routed ⟨{}, 0, m, net⟩ [0] v ∧ Asks routed v q ∧
        q.route.hops = ["A", "B"] ∧ q.route.contains q.checked = false ∧
        ∃ name, q.settle routed = (.error (.config (.selfDelegation name)), q.net) := by
  intro sender registry net m
  have first : registry.get? " a " = some 0 := by decide +kernel
  have second : registry.get? " b " = some 1 := by decide +kernel
  have named : net.Named registry := by
    refine ⟨rfl, fun key id bound => ?_⟩
    have capital_a : Registry.normalize "A" = "a" := by decide +kernel
    have capital_b : Registry.normalize "B" = "b" := by decide +kernel
    rw [Dict.get?_insert, Dict.get?_insert] at bound
    split at bound <;> rename_i at_b
    · cases bound
      exact ⟨_, rfl, capital_b.trans at_b.symm⟩
    · split at bound <;> rename_i at_a
      · cases bound
        exact ⟨_, rfl, capital_a.trans at_a.symm⟩
      · cases bound
  obtain ⟨h, fails⟩ : ∃ h, sender.handover? {} m net = some h :=
    Option.isSome_iff_exists.1 (by decide +kernel)
  obtain ⟨-, -, handlers, told, recorded⟩ := handover_frame fails
  have same : net.SameTargets h.net := recorded ▸ (SameTargets.refl net).record told
  let m' := Handler.forwarded true h.message h.error.message
  have asks : Asks routed ⟨{}, 0, m, net⟩
      (.byDelegate " b " true h.message h.error.message ⟨["A"]⟩ h.net) :=
    @Asks.delegate routed ⟨{}, 0, m, net⟩ sender h " b " true [] [] rfl fails handlers
  have visited : Request.visit? (.byDelegate " b " true h.message h.error.message ⟨["A"]⟩ h.net) =
      some ⟨⟨["A"]⟩, 1, m', h.net⟩ := by
    have new : Route.contains ⟨["A"]⟩ (Text.trim " b ") = false := by decide +kernel
    exact Request.visit?_eq_some.2 ⟨new, 1, (Passed.target?_eq named same).trans second, rfl⟩
  have asks' : Asks routed ⟨⟨["A"]⟩, 1, m', h.net⟩ (.byMulti "B" " a " ⟨["A", "B"]⟩ m' h.net) :=
    @Asks.protocol routed ⟨⟨["A"]⟩, 1, m', h.net⟩ "B" " a " ⟨[" a "]⟩ registry [] []
      (by rw [recorded]; rfl) (by decide +kernel : Route.contains ⟨["A"]⟩ "B" = false)
      (by rw [recorded]; rfl) rfl
  obtain ⟨-, -, -, -, -, requests⟩ :=
    (send_refuses_cycles named ⟨" a ", first⟩ m).2 _ _ (.ask .start asks visited)
  obtain ⟨-, refused, settles, -⟩ := requests _ asks'
  have stands : (Request.byMulti "B" " a " ⟨["A", "B"]⟩ m' h.net).target? = some 0 :=
    (Passed.target?_eq named same).trans first
  obtain ⟨name, -, outcome⟩ := settles (refused.2 ⟨0, by simp, stands⟩)
  have unseen : Route.contains ⟨["A", "B"]⟩ " a " = false := by decide +kernel
  exact ⟨named, ⟨" a ", first⟩, _, _, .ask .start asks visited, asks', rfl, unseen, name, outcome⟩

end Sending

end Syslog
