import Syslog.Proofs.Delivery.Depth

/-!
# What a multi does with a message

A multi sends a message on to every target of its list, one after the other, and lets nothing that
goes wrong keep it from the later ones. In the end it answers for all of them.

* `Round`, `Rounds`: what comes of the names of a list, one after the other;
* `exists_rounds`, `Rounds.unique`: this is settled by the network in which the multi begins;
* `Rounds.visits`: to whom the message is sent is settled by the list alone;
* `Rounds.deliverEach_eq`: a multi makes these rounds, and counts what failed in them;
* `sendRouted_fans_out`: all that comes of a message to a multi, as deep as deliveries nest.
-/

namespace Syslog

open Network

/-! ## 1. Rounds -/

/-- What comes of one name of a list: the visit that it leads to, if it leads to one, and the
answer. -/
structure Round where
  protocol : String
  visit? : Option Visit
  result : Except DeliveryError Unit

/-- A message that is sent along a route to the targets of a list, one after the other: a round for
each name, whatever came of those before it, and the network after them. -/
inductive Rounds (registry : Registry Nat) (route : Route) (m : Message) :
    List String → Network → List Round → Network → Prop
  | nil {net : Network} : Rounds registry route m [] net [] net
  /-- A name that the route contains is refused, and nothing is sent. -/
  | passed {protocol : String} {rest : List String} {net net' : Network} {rounds : List Round}
      (passed : route.contains protocol = true)
      (later : Rounds registry route m rest net rounds net') :
      Rounds registry route m (protocol :: rest) net
        (⟨protocol, none, .error (.config (.selfDelegation protocol))⟩ :: rounds) net'
  /-- A name that stands for no target is an error, and nothing is sent. -/
  | unknown {protocol : String} {rest : List String} {net net' : Network} {rounds : List Round}
      (new : route.contains protocol = false) (unbound : registry.get? protocol = none)
      (later : Rounds registry route m rest net rounds net') :
      Rounds registry route m (protocol :: rest) net
        (⟨protocol, none, .error (.registry (.unknown (Registry.normalize protocol)))⟩ :: rounds)
        net'
  /-- To the target of any other name the message is sent once, as it is. -/
  | sent {protocol : String} {rest : List String} {net net' net'' : Network} {rounds : List Round}
      {id : Nat} {result : Except DeliveryError Unit} (new : route.contains protocol = false)
      (bound : registry.get? protocol = some id)
      (sends : net.sendRouted route id m = (result, net'))
      (later : Rounds registry route m rest net' rounds net'') :
      Rounds registry route m (protocol :: rest) net
        (⟨protocol, some ⟨route, id, m, net⟩, result⟩ :: rounds) net''

variable {registry : Registry Nat} {route : Route} {m : Message} {protocols : List String}
  {net net' net'' : Network} {rounds rounds' : List Round}

/-- Every list is gone through to its end. -/
theorem exists_rounds (registry : Registry Nat) (route : Route) (m : Message)
    (protocols : List String) (net : Network) :
    ∃ rounds net', Rounds registry route m protocols net rounds net' := by
  induction protocols generalizing net with
  | nil => exact ⟨[], net, .nil⟩
  | cons protocol rest ih =>
    cases passed : route.contains protocol with
    | true =>
      obtain ⟨rounds, net', later⟩ := ih net
      exact ⟨_, net', .passed passed later⟩
    | false =>
      cases bound : registry.get? protocol with
      | none =>
        obtain ⟨rounds, net', later⟩ := ih net
        exact ⟨_, net', .unknown passed bound later⟩
      | some id =>
        obtain ⟨rounds, net', later⟩ := ih (net.sendRouted route id m).2
        exact ⟨_, net', .sent passed bound rfl later⟩

namespace Rounds

/-- The network in which the rounds begin settles all of them. -/
theorem unique (h : Rounds registry route m protocols net rounds net')
    (h' : Rounds registry route m protocols net rounds' net'') :
    rounds' = rounds ∧ net'' = net' := by
  -- the route and the registry settle of which kind a round is, whatever went before
  induction h generalizing rounds' net'' with
  | nil =>
    cases h'
    exact ⟨rfl, rfl⟩
  | passed passed later ih =>
    cases h' with
    | passed _ later' =>
      obtain ⟨rfl, rfl⟩ := ih later'
      exact ⟨rfl, rfl⟩
    | unknown new | sent new => cases passed.symm.trans new
  | unknown new unbound later ih =>
    cases h' with
    | unknown _ _ later' =>
      obtain ⟨rfl, rfl⟩ := ih later'
      exact ⟨rfl, rfl⟩
    | passed passed => cases passed.symm.trans new
    | sent _ bound => cases unbound.symm.trans bound
  | sent new bound sends later ih =>
    cases h' with
    | sent _ bound' sends' later' =>
      obtain rfl := Option.some.inj (bound'.symm.trans bound)
      obtain ⟨rfl, rfl⟩ := Prod.mk.inj (sends'.symm.trans sends)
      obtain ⟨rfl, rfl⟩ := ih later'
      exact ⟨rfl, rfl⟩
    | passed passed => cases passed.symm.trans new
    | unknown _ unbound => cases unbound.symm.trans bound

/-- There is a round for each name of the list, in order. -/
theorem map_protocol (h : Rounds registry route m protocols net rounds net') :
    rounds.map (·.protocol) = protocols := by
  induction h with
  | nil => rfl
  | passed _ _ ih | unknown _ _ _ ih | sent _ _ _ _ ih => exact congrArg _ ih

/-- **The list settles what is sent**: the message, along the route, to the target of every name
that stands for one and is not on the route. -/
theorem visits (h : Rounds registry route m protocols net rounds net') :
    (rounds.filterMap (·.visit?)).map (fun v => (v.route, v.target, v.message)) =
      (protocols.filter fun protocol => !route.contains protocol).filterMap fun protocol =>
        (registry.get? protocol).map fun id => (route, id, m) := by
  induction h with
  | nil => rfl
  | passed passed later ih => simpa [passed] using ih
  | unknown new unbound later ih => simpa [new, unbound] using ih
  | sent new bound sends later ih => simpa [new, bound] using ih

end Rounds

/-! ## 2. What a multi counts -/

/-- What a multi has counted after its rounds: the names that failed, and the first fault of the
configuration. -/
def FanOut.ofRounds (rounds : List Round) : FanOut where
  failed := (rounds.filter fun round => !round.result.isOk).map (·.protocol)
  fault := rounds.findSome? fun round => configFault round.result

theorem FanOut.ofRounds_cons (round : Round) (rounds : List Round) :
    ofRounds (round :: rounds) = (ofRounds rounds).note round.protocol round.result := by
  obtain ⟨protocol, visit?, result⟩ := round
  cases result with
  | ok => rfl
  | error e =>
    simp only [ofRounds, note, List.findSome?_cons]
    cases configFault (.error e) <;> rfl

section One

variable {next : Delivery} {owner protocol : String}

theorem deliverOne_of_passed (passed : route.contains protocol = true) :
    deliverOne next owner route m protocol net =
      (.error (.config (.selfDelegation protocol)), net) :=
  if_pos passed

theorem deliverOne_of_unknown (new : route.contains protocol = false)
    (present : net.registry = some registry) (unbound : registry.get? protocol = none) :
    deliverOne next owner route m protocol net =
      (.error (.registry (.unknown (Registry.normalize protocol))), net) := by
  have lookup : registry.lookup protocol = .error (.unknown (Registry.normalize protocol)) := by
    rw [Registry.lookup, unbound]
  rw [deliverOne, if_neg (by simp [new]), deliverTo, present]
  dsimp only
  rw [lookup]

theorem deliverOne_of_bound {id : Nat} (new : route.contains protocol = false)
    (present : net.registry = some registry) (bound : registry.get? protocol = some id) :
    deliverOne next owner route m protocol net = next route id m net := by
  have found : (Request.byMulti owner protocol route m net).target? = some id :=
    Option.bind_eq_some_iff.2 ⟨registry, present, bound⟩
  exact Request.settle_of_visit (Request.visit?_eq_some.2 ⟨new, id, found, rfl⟩)

end One

theorem registry_of_sendRouted {id : Nat} {result : Except DeliveryError Unit}
    (sends : net.sendRouted route id m = (result, net')) : net'.registry = net.registry := by
  have kept := (routed_keeps route id m net).registry
  rwa [routed, sends] at kept

/-- **A multi makes these rounds.** -/
theorem Rounds.deliverEach_eq (h : Rounds registry route m protocols net rounds net')
    (present : net.registry = some registry) (owner : String) :
    deliverEach routed owner route m protocols net = (.ofRounds rounds, net') := by
  induction h with
  | nil => rfl
  | passed passed later ih =>
    rw [deliverEach_cons, deliverOne_of_passed passed, FanOut.ofRounds_cons]
    dsimp only
    rw [ih present]
  | unknown new unbound later ih =>
    rw [deliverEach_cons, deliverOne_of_unknown new present unbound, FanOut.ofRounds_cons]
    dsimp only
    rw [ih present]
  | sent new bound sends later ih =>
    have called : routed route _ m _ = _ := sends
    rw [deliverEach_cons, deliverOne_of_bound new present bound, FanOut.ofRounds_cons, called]
    dsimp only
    -- whatever the target has done, the later names stand for what they stood for
    rw [ih ((registry_of_sendRouted sends).trans present)]

/-! ## 3. The answer of a multi -/

/-- A delivery is one step, along whatever route the message has come. -/
theorem sendRouted_eq_deliverStep (net : Network) (route : Route) (id : Nat) (m : Message) :
    net.sendRouted route id m = deliverStep routed route id m net :=
  (Visit.Since.first ⟨route, id, m, net⟩).outcome_routed

/-- **What comes of a message to a multi** that is not on its route. There is one round for each
name of the list, in order, and nothing cuts them short: the message itself is sent once for every
name that stands for a target and is not on the route, on which the multi is now the last hop. The
multi answers with the first fault of the configuration; if there is none, with the names that
failed; and if there are none of these either, or the registry keeps failures to itself, all is
well. -/
theorem sendRouted_fans_out {id : Nat} {name : String} {settings : MultiSettings}
    (here : net.targets[id]? = some (.multi name settings)) (new : route.contains name = false)
    (present : net.registry = some registry) (m : Message) :
    let onward := route.extend name
    ∃ rounds net', Rounds registry onward m settings.protocols net rounds net' ∧
      (∀ rounds' net'', Rounds registry onward m settings.protocols net rounds' net'' →
        rounds' = rounds ∧ net'' = net') ∧
      rounds.map (·.protocol) = settings.protocols ∧
      (rounds.filterMap (·.visit?)).map (fun v => (v.route, v.target, v.message)) =
        (settings.protocols.filter fun protocol => !onward.contains protocol).filterMap
          (fun protocol => (registry.get? protocol).map fun id => (onward, id, m)) ∧
      let failed := (rounds.filter fun round => !round.result.isOk).map (·.protocol)
      net.sendRouted route id m =
        (match rounds.findSome? fun round => configFault round.result with
          | some e => .error e
          | none =>
            if failed.isEmpty || registry.suppressErrors then .ok ()
            else .error (.multi name failed),
          net') := by
  intro onward
  obtain ⟨rounds, net', all⟩ := exists_rounds registry onward m settings.protocols net
  refine ⟨rounds, net', all, fun _ _ => all.unique, all.map_protocol, all.visits, ?_⟩
  rw [sendRouted_eq_deliverStep, deliverStep, here]
  dsimp only
  rw [deliverMulti_open new present, all.deliverEach_eq present]
  rfl

/-- A multi that lists a target twice, a name that stands for nothing, and another multi with that
target. The first of the calls fails. -/
theorem sendRouted_fans_out_of_nested :
    let registry : Registry Nat := { instances := .ofList [("a", 0), ("inner", 1), ("all", 2)] }
    let settings : MultiSettings := ⟨["A", "missing", " Inner ", "a"]⟩
    let net : Network :=
      { targets := [.external "a" ⟨[.error (.closed "a")], .ok ()⟩, .multi "inner" ⟨["A"]⟩,
          .multi "all" settings],
        registry := some registry, now := ⟨1970, 1, 1, 0, 0, 0, 0, by decide⟩ }
    let m : Message := { body := "x" }
    ∃ rounds net', Rounds registry ⟨["all"]⟩ m settings.protocols net rounds net' ∧
      (rounds.filterMap (·.visit?)).map (·.target) = [0, 1, 0] ∧
      net.sendRouted {} 2 m = (.error (.multi "all" ["A", "missing"]), net') ∧
      net'.effects = [.received "a" m ⟨["all"]⟩, .received "a" m ⟨["all", "inner"]⟩,
        .received "a" m ⟨["all"]⟩] := by
  intro registry settings net m
  have here : net.targets[2]? = some (.multi "all" settings) := rfl
  have new : Route.contains {} "all" = false := rfl
  obtain ⟨rounds, net', all, -, -, visits, answer⟩ := sendRouted_fans_out here new rfl m
  have targets := congrArg (List.map fun call => call.2.1) visits
  rw [List.map_map] at targets
  have result : (net.sendRouted {} 2 m).1 = .error (.multi "all" ["A", "missing"]) := rfl
  have effects : (net.sendRouted {} 2 m).2.effects = [.received "a" m ⟨["all"]⟩,
    .received "a" m ⟨["all", "inner"]⟩, .received "a" m ⟨["all"]⟩] := rfl
  have after : (net.sendRouted {} 2 m).2 = net' := congrArg Prod.snd answer
  exact ⟨rounds, net', all, targets.trans (by decide +kernel), Prod.ext result after,
    after ▸ effects⟩

/-- A multi that lists itself is at fault, though the registry keeps failures to itself; the target
before it and the one behind it are given the message. -/
example :
    let net : Network :=
      { targets := [.external "a" (.always (.ok ())), .multi "all" ⟨["a", "ALL", "a"]⟩],
        registry := some ⟨.ofList [("a", 0), ("all", 1)], true⟩,
        now := ⟨1970, 1, 1, 0, 0, 0, 0, by decide⟩ }
    let out := net.sendRouted {} 1 {}
    out.1 = .error (.config (.selfDelegation "ALL")) ∧
      out.2.effects = [.received "a" {} ⟨["all"]⟩, .received "a" {} ⟨["all"]⟩] := ⟨rfl, rfl⟩

end Syslog
