import Mathlib.Data.List.Nodup
import Mathlib.Data.List.Perm.Subperm
import Syslog.Proofs.Delivery.Visits

/-!
# How deep deliveries nest

A target that finds its name on the route refuses, so the hops that a route gains are the names of
different targets, and there are no more of them than targets. This holds in every network, also
where names stand for other targets than those that bear them. So the bound on the depth is none.

* `routed`: deliveries as the targets of a network make them;
* `Nested`: visits inside one another;
* `Visit.Since`: a visit whose route names different targets of the network behind another route;
  `Visit.Within`: one whose whole route does; `Nested.within`;
* `Visit.Since.ends`: such a visit ends; `Visit.Since.outcome_routed`: it is one step, in which the
  target makes further deliveries of this kind;
* `Visit.Within.induct`: what holds of a visit if it holds of those inside it.
-/

namespace Syslog

open Network

/-! ## 1. Visits inside one another -/

/-- Deliveries as the targets of a network make them. -/
def routed : Delivery := fun route id m net => net.sendRouted route id m

theorem Visit.outcome_routed_eq (v : Visit) :
    v.outcome routed = v.outcome (deliver (v.net.targets.length + 1)) := by
  simp only [Visit.outcome, routed, Network.sendRouted]

theorem routed_keeps : Keeps routed := fun route id m net => deliver_keeps _ route id m net

/-- A visit that the first one has led to, and the positions of the targets that are at work: each
asks for what the next one does. -/
inductive Nested (next : Delivery) (first : Visit) : List Nat → Visit → Prop
  | start : Nested next first [] first
  | ask {ids : List Nat} {v v' : Visit} {q : Request} (inner : Nested next first ids v)
      (asks : Asks next v q) (visited : q.visit? = some v') :
      Nested next first (ids ++ [v.target]) v'

/-! ## 2. Routes of different names -/

/-- There are the same targets as in the network, and behind `start` the route has passed different
ones of them. -/
structure Visit.Since (net : Network) (start : Route) (v : Visit) : Prop where
  same : net.SameTargets v.net
  passed : ∃ hops, v.route.hops = start.hops ++ hops ∧ hops.Nodup ∧
    hops ⊆ net.targets.map (·.name)

namespace Visit.Since

variable {next : Delivery} {net : Network} {start : Route} {v v' : Visit} {q : Request}

/-- Every visit is the first one behind its own route. -/
theorem first (v : Visit) : v.Since v.net v.route :=
  ⟨.refl v.net, [], (List.append_nil _).symm, List.nodup_nil, List.nil_subset _⟩

theorem length_le (since : v.Since net start) :
    v.route.hops.length ≤ start.hops.length + net.targets.length := by
  obtain ⟨hops, route, nodup, known⟩ := since.passed
  have fewer := (List.subperm_of_subset nodup known).length_le
  rw [List.length_map] at fewer
  rw [route, List.length_append]
  omega

/-- The visits of a request have passed the one who asks. -/
theorem visited (since : v.Since net start) (keeps : Keeps next) (asks : Asks next v q)
    (visited : q.visit? = some v') :
    v'.Since net start ∧ v'.route.hops.length = v.route.hops.length + 1 := by
  obtain ⟨same, -, t, here, -, new, route⟩ := asks.frame keeps
  obtain ⟨-, id, -, rfl⟩ := Request.visit?_eq_some.1 visited
  obtain ⟨passed, behind, nodup, known⟩ := since.passed
  have apart : t.name ∉ passed := fun member => by
    have member : t.name ∈ v.route.hops := behind ▸ List.mem_append_right _ member
    have contains : v.route.contains t.name = true :=
      List.any_eq_true.2 ⟨t.name, member, Text.equalIgnoringAsciiCase_refl _⟩
    rw [new] at contains
    cases contains
  have bears : t.name ∈ net.targets.map (·.name) := by
    obtain ⟨t', here', name, -⟩ := since.same.symm.target here
    exact List.mem_map.2 ⟨t', List.mem_of_getElem? here', name⟩
  have hops : q.route.hops = v.route.hops ++ [t.name] := by rw [route, Route.extend]
  refine ⟨⟨since.same.trans same, passed ++ [t.name], ?_, ?_, ?_⟩, ?_⟩
  · rw [hops, behind, List.append_assoc]
  · rw [← List.concat_eq_append]
    exact List.Nodup.concat apart nodup
  · exact List.append_subset.2 ⟨known, List.cons_subset.2 ⟨bears, List.nil_subset _⟩⟩
  · rw [hops, List.length_append, List.length_singleton]

/-- **Visits end**, and a bound on their depth is none if it leaves room for every target. -/
theorem ends (since : v.Since net start) {depth : Nat}
    (room : start.hops.length + net.targets.length < v.route.hops.length + depth) :
    Ends v (v.outcome (deliver depth)) := by
  induction depth generalizing v with
  | zero =>
    -- all targets were passed, and there is room for none
    have := since.length_le
    omega
  | succ depth ih =>
    refine .intro (deliver depth) v fun q asks v' visited => ?_
    obtain ⟨since', longer⟩ := since.visited (deliver_keeps depth) asks visited
    exact ih since' (by omega)

/-- What comes of a visit in a network: its bound on the depth leaves room for every target. -/
theorem ends_routed (since : v.Since net start) : Ends v (v.outcome routed) := by
  have size := since.same.length
  obtain ⟨hops, route, -⟩ := since.passed
  have behind := congrArg List.length route
  rw [List.length_append] at behind
  rw [v.outcome_routed_eq]
  exact since.ends (by omega)

/-- A delivery is one step, in which the target makes further deliveries of this kind. -/
theorem outcome_routed (since : v.Since net start) :
    v.outcome routed = v.outcome (deliverStep routed) := by
  refine Ends.unique (.intro routed v fun q asks v' visited => ?_) since.ends_routed
  exact (since.visited routed_keeps asks visited).1.ends_routed

end Visit.Since

/-- There are the same targets as in the network, and the route has passed different ones of them.
-/
structure Visit.Within (net : Network) (v : Visit) : Prop where
  same : net.SameTargets v.net
  nodup : v.route.hops.Nodup
  known : v.route.hops ⊆ net.targets.map (·.name)

theorem Visit.within_iff_since {net : Network} {v : Visit} : v.Within net ↔ v.Since net {} :=
  ⟨fun ⟨same, nodup, known⟩ => ⟨same, v.route.hops, rfl, nodup, known⟩,
    fun ⟨same, _, behind, nodup, known⟩ => ⟨same, behind ▸ nodup, behind ▸ known⟩⟩

namespace Visit.Within

variable {next : Delivery} {net : Network} {v v' : Visit} {q : Request}

/-- The first visit. -/
theorem first (net : Network) (id : Nat) (m : Message) : Visit.Within net ⟨{}, id, m, net⟩ :=
  ⟨.refl net, List.nodup_nil, List.nil_subset _⟩

theorem length_le (within : v.Within net) : v.route.hops.length ≤ net.targets.length := by
  have fewer := (within_iff_since.1 within).length_le
  rwa [List.length_nil, Nat.zero_add] at fewer

theorem visited (within : v.Within net) (keeps : Keeps next) (asks : Asks next v q)
    (visited : q.visit? = some v') :
    v'.Within net ∧ v'.route.hops.length = v.route.hops.length + 1 := by
  obtain ⟨since, longer⟩ := (within_iff_since.1 within).visited keeps asks visited
  exact ⟨within_iff_since.2 since, longer⟩

theorem ends_routed (within : v.Within net) : Ends v (v.outcome routed) :=
  (within_iff_since.1 within).ends_routed

theorem outcome_routed (within : v.Within net) :
    v.outcome routed = v.outcome (deliverStep routed) :=
  (within_iff_since.1 within).outcome_routed

/-- **What a visit has from those inside it, all visits have.** -/
theorem induct (keeps : Keeps next) {motive : Visit → Prop}
    (step : ∀ v : Visit, v.Within net →
      (∀ q v', Asks next v q → q.visit? = some v' → motive v') → motive v)
    {v : Visit} (within : v.Within net) : motive v :=
  step v within fun _ _ asks visited => induct keeps step (within.visited keeps asks visited).1
termination_by net.targets.length - v.route.hops.length
decreasing_by
  obtain ⟨within', longer⟩ := within.visited keeps asks visited
  have := within'.length_le
  omega

end Visit.Within

/-- All visits have routes of different names. -/
theorem Nested.within {next : Delivery} (keeps : Keeps next) {net : Network} {first v : Visit}
    {ids : List Nat} (start : first.Within net) (nested : Nested next first ids v) :
    v.Within net := by
  induction nested with
  | start => exact start
  | ask inner asks visited ih => exact (ih.visited keeps asks visited).1

end Syslog
