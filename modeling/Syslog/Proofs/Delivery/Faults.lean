import Syslog.Proofs.Delivery.Depth

/-!
# The first fault of the configuration

Targets and handlers that a message comes to may each give an error. An error of the configuration
is handed on by everyone who has asked for the delivery, and of several the first one; other errors
stay with the sender that has asked, or are counted by the multi.

* `Turn`, `Visit.turns`: what a target does in the course of a delivery, one turn after the other;
* `Visit.outcome_of_fault`: the first fault among the turns is the outcome;
  `Visit.outcome_of_handover`: other errors do not change the outcome of a sender;
* `Arises`: all errors of a delivery in the order in which they arise;
* `send_first_fault`: a message that is sent comes to the first fault among these.
-/

namespace Syslog

open Network

/-! ## 1. Turns -/

/-- A step of a delivery: a handler answers, or a further delivery is asked for. -/
inductive Turn where
  | answer (result : Except DeliveryError Unit)
  | ask (q : Request)

namespace Turn

/-- What comes of the turn. -/
def result (next : Delivery) : Turn → Except DeliveryError Unit
  | answer result => result
  | ask q => (q.settle next).1

/-- The visit that the turn leads to, if it leads to one. -/
def visit? : Turn → Option Visit
  | answer _ => none
  | ask q => q.visit?

/-- The fault of the configuration that comes of the turn. -/
def fault (next : Delivery) (t : Turn) : Option DeliveryError := configFault (t.result next)

theorem result_of_visit {next : Delivery} {t : Turn} {v : Visit} (visited : t.visit? = some v) :
    t.result next = (v.outcome next).1 := by
  cases t with
  | answer result => cases visited
  | ask q => exact congrArg Prod.fst (Request.settle_of_visit visited)

end Turn

/-- Turns along a list, each in the network that those before it have left. -/
def turnsAlong {α : Type} (turn : α → Network → Turn) (after : Network → α → Network) :
    List α → Network → List Turn
  | [], _ => []
  | a :: rest, net => turn a net :: turnsAlong turn after rest (after net a)

theorem mem_turnsAlong {α : Type} {turn : α → Network → Turn} {after : Network → α → Network}
    {xs : List α} {net : Network} {t : Turn} :
    t ∈ turnsAlong turn after xs net ↔
      ∃ before a rest, xs = before ++ a :: rest ∧ t = turn a (before.foldl after net) := by
  induction xs generalizing net with
  | nil => simp [turnsAlong]
  | cons x xs ih =>
    rw [turnsAlong, List.mem_cons, ih]
    constructor
    · rintro (rfl | ⟨before, a, rest, rfl, rfl⟩)
      · exact ⟨[], x, xs, rfl, rfl⟩
      · exact ⟨x :: before, a, rest, rfl, rfl⟩
    · rintro ⟨before, a, rest, split, rfl⟩
      cases before with
      | nil =>
        obtain ⟨rfl, rfl⟩ := List.cons.inj split
        exact .inl rfl
      | cons y before =>
        obtain ⟨rfl, rfl⟩ := List.cons.inj split
        exact .inr ⟨before, a, rest, rfl, rfl⟩

section Turns

variable (next : Delivery) {m : Message} {route : Route} {net : Network}

/-- What a handler does with a message that could not be delivered. -/
def Handler.turn (m : Message) (reason : String) (route : Route) (handler : Handler)
    (net : Network) : Turn :=
  match handler with
  | .tracing | .null => .answer (.ok ())
  | .delegate target appendReason => .ask (.byDelegate target appendReason m reason route net)
  | .custom _ answers => .answer answers.next.1

/-- What handlers do one after the other. -/
def handTurns (sender : String) (m : Message) (reason : String) (route : Route) :
    List Handler → Network → List Turn :=
  turnsAlong (Handler.turn m reason route) fun net handler =>
    (hand next sender m reason route handler net).2.2

/-- What a multi asks for, one target after the other. -/
def eachTurns (owner : String) (route : Route) (m : Message) : List String → Network → List Turn :=
  turnsAlong (fun protocol net => .ask (.byMulti owner protocol route m net)) fun net protocol =>
    (deliverOne next owner route m protocol net).2

/-- What the target of a visit does, one turn after the other: a sender that hands over gives the
message to its handlers, and a multi that does not refuse asks for each of its targets. -/
def Visit.turns (v : Visit) : List Turn :=
  match v.net.targets[v.target]? with
  | some (.sender s) =>
    match s.handover? v.route v.message v.net with
    | some h =>
      handTurns next s.name h.message h.error.message (v.route.extend s.name)
        h.sender.backlog.handlers h.net
    | none => []
  | some (.multi name settings) =>
    match v.route.contains name, v.net.registry with
    | false, some _ =>
      eachTurns next name (v.route.extend name) v.message settings.protocols v.net
    | _, _ => []
  | some (.external ..) | none => []

theorem hand_turn (sender reason : String) (handler : Handler) :
    (hand next sender m reason (route.extend sender) handler net).1 =
      (handler.turn m reason (route.extend sender) net).result next := by
  cases handler with
  | delegate target appendReason =>
    rw [hand_delegate]
    rfl
  | tracing | null | custom => rfl

/-- Handlers come to the first fault among their turns. -/
theorem handAll_fault (sender reason : String) (handlers : List Handler) :
    (handAll next sender m reason (route.extend sender) handlers net).1 =
      (handTurns next sender m reason (route.extend sender) handlers net).findSome?
        (Turn.fault next) := by
  rw [handTurns]
  induction handlers generalizing net with
  | nil => rfl
  | cons handler rest ih =>
    rw [handAll_cons, turnsAlong, List.findSome?_cons, Turn.fault, ← hand_turn]
    dsimp only
    rw [ih]
    cases configFault (hand next sender m reason (route.extend sender) handler net).1 <;> rfl

/-- The targets of a multi come to the first fault among their turns. -/
theorem deliverEach_fault (owner : String) (protocols : List String) :
    (deliverEach next owner route m protocols net).1.fault =
      (eachTurns next owner route m protocols net).findSome? (Turn.fault next) := by
  rw [eachTurns]
  induction protocols generalizing net with
  | nil => rfl
  | cons protocol rest ih =>
    rw [deliverEach_cons, turnsAlong, List.findSome?_cons, ← ih, Turn.fault, Turn.result,
      ← deliverOne_eq]
    dsimp only
    cases (deliverOne next owner route m protocol net).1 with
    | ok => rfl
    | error e =>
      simp only [FanOut.note]
      cases configFault (.error e) <;> rfl

/-- What handlers leave, one after the other. -/
theorem handAll_net (sender reason : String) (handlers : List Handler) :
    (handAll next sender m reason route handlers net).2.2 = handlers.foldl
      (fun net handler => (hand next sender m reason route handler net).2.2) net := by
  induction handlers generalizing net with
  | nil => rfl
  | cons handler rest ih => exact ih

theorem deliverEach_net (owner : String) (protocols : List String) :
    (deliverEach next owner route m protocols net).2 =
      protocols.foldl (fun net protocol => (deliverOne next owner route m protocol net).2) net := by
  induction protocols generalizing net with
  | nil => rfl
  | cons protocol rest ih =>
    rw [deliverEach_cons]
    exact ih

/-- Among the turns of handlers are the requests of the delegates. -/
theorem ask_mem_handTurns {sender reason : String} {handlers : List Handler} {q : Request} :
    .ask q ∈ handTurns next sender m reason route handlers net ↔
      ∃ before target appendReason after,
        handlers = before ++ .delegate target appendReason :: after ∧
        q = .byDelegate target appendReason m reason route
          (handAll next sender m reason route before net).2.2 := by
  simp only [handTurns, mem_turnsAlong, handAll_net]
  constructor
  · rintro ⟨before, handler, after, rfl, turn⟩
    cases handler with
    | delegate target appendReason =>
      exact ⟨before, target, appendReason, after, rfl, Turn.ask.inj turn⟩
    | tracing | null | custom => cases turn
  · rintro ⟨before, target, appendReason, after, rfl, rfl⟩
    exact ⟨before, _, after, rfl, rfl⟩

/-- The turns of a multi are its requests. -/
theorem ask_mem_eachTurns {owner : String} {protocols : List String} {q : Request} :
    .ask q ∈ eachTurns next owner route m protocols net ↔
      ∃ before protocol after, protocols = before ++ protocol :: after ∧
        q = .byMulti owner protocol route m (deliverEach next owner route m before net).2 := by
  simp only [eachTurns, mem_turnsAlong, deliverEach_net, Turn.ask.injEq]

end Turns

namespace Visit

variable {next : Delivery} {v : Visit}

/-- **The turns of a visit ask for what the visit asks for.** -/
theorem ask_mem_turns {q : Request} : .ask q ∈ v.turns next ↔ Asks next v q := by
  constructor
  · intro member
    unfold turns at member
    split at member
    · rename_i s here
      split at member
      · rename_i h fails
        obtain ⟨before, target, appendReason, after, handlers, rfl⟩ :=
          (ask_mem_handTurns next).1 member
        exact .delegate here fails handlers
      · cases member
    · rename_i name settings here
      split at member
      · rename_i new present
        obtain ⟨before, protocol, after, protocols, rfl⟩ := (ask_mem_eachTurns next).1 member
        exact .protocol here new present protocols
      · cases member
    · cases member
    · cases member
  · intro asks
    cases asks with
    | delegate here fails handlers =>
      simp only [turns, here, fails]
      exact (ask_mem_handTurns next).2 ⟨_, _, _, _, handlers, rfl⟩
    | protocol here new present protocols =>
      simp only [turns, here, new, present]
      exact (ask_mem_eachTurns next).2 ⟨_, _, _, protocols, rfl⟩

/-- **A sender that hands over comes to the first fault among the turns**; without one, only its own
settings count. -/
theorem outcome_of_handover {s : Sender} {h : Handover}
    (here : v.net.targets[v.target]? = some (.sender s))
    (fails : s.handover? v.route v.message v.net = some h) :
    (v.outcome (deliverStep next)).1 =
      s.verdict h.error ((v.turns next).findSome? (Turn.fault next)) := by
  simp only [outcome, deliverStep, turns, here, fails]
  rw [deliverSender_of_handover next v.target fails]
  dsimp only
  rw [handAll_fault]

/-- **The first fault among the turns is the outcome.** -/
theorem outcome_of_fault {e : DeliveryError}
    (first : (v.turns next).findSome? (Turn.fault next) = some e) :
    (v.outcome (deliverStep next)).1 = .error e := by
  have found := first
  unfold turns at first
  split at first
  · rename_i s here
    split at first
    · rename_i h fails
      rw [outcome_of_handover here fails, found]
      rfl
    · cases first
  · rename_i name settings here
    split at first
    · rename_i new present
      simp only [outcome, deliverStep, here]
      rw [deliverMulti_open new present]
      dsimp only
      rw [deliverEach_fault, first]
    · cases first
  · cases first
  · cases first

end Visit

/-! ## 2. Errors in the order in which they arise -/

/-- The error of a result, if there is one. -/
def errorsOf : Except DeliveryError Unit → List DeliveryError
  | .ok () => []
  | .error e => [e]

theorem configFault_eq_some_iff {result : Except DeliveryError Unit} {e : DeliveryError} :
    configFault result = some e ↔ result = .error e ∧ e.isConfig = true := by
  cases result with
  | ok => simp [configFault]
  | error e' =>
    simp only [configFault, Except.error.injEq]
    by_cases fault : e'.isConfig = true
    · rw [if_pos fault, Option.some.injEq]
      exact ⟨fun same => ⟨same, same ▸ fault⟩, And.left⟩
    · rw [if_neg fault]
      constructor
      · intro none
        cases none
      · rintro ⟨rfl, fault'⟩
        exact absurd fault' fault

/-- A fault among the turns is one of the outcome. -/
theorem Visit.configFault_of_turns {next : Delivery} {v : Visit} {e : DeliveryError}
    (first : (v.turns next).findSome? (Turn.fault next) = some e) :
    configFault (v.outcome (deliverStep next)).1 = some e := by
  obtain ⟨t, -, fault⟩ := List.exists_of_findSome?_eq_some first
  exact configFault_eq_some_iff.2 ⟨outcome_of_fault first, (configFault_eq_some_iff.1 fault).2⟩

theorem find?_errorsOf (result : Except DeliveryError Unit) :
    (errorsOf result).find? (·.isConfig) = configFault result := by
  cases result with
  | ok => rfl
  | error e =>
    rw [errorsOf, configFault, List.find?_singleton]

theorem mem_errorsOf {result : Except DeliveryError Unit} {e : DeliveryError} :
    e ∈ errorsOf result ↔ result = .error e := by
  cases result with
  | ok => simp [errorsOf]
  | error e' => simp [errorsOf, eq_comm]

/-- The errors of a visit, in the order in which they arise: first those of its turns, one turn
after the other, and those of a turn that leads to a visit are the errors of that visit; then its
own. -/
inductive Arises (next : Delivery) : Visit → List DeliveryError → Prop
  | intro {v : Visit} (inner : Turn → List DeliveryError)
      (nested : ∀ t ∈ v.turns next, ∀ v', t.visit? = some v' → Arises next v' (inner t))
      (other : ∀ t ∈ v.turns next, t.visit? = none → inner t = errorsOf (t.result next)) :
      Arises next v ((v.turns next).flatMap inner ++ errorsOf (v.outcome next).1)

namespace Arises

variable {next : Delivery} {net : Network} {v : Visit} {errors errors' : List DeliveryError}

/-- **Errors arise in one order only.** -/
theorem unique (h : Arises next v errors) (h' : Arises next v errors') : errors' = errors := by
  induction h generalizing errors' with
  | @intro v inner nested other ih =>
    cases h' with
    | intro inner' nested' other' =>
      have same : (v.turns next).flatMap inner' = (v.turns next).flatMap inner := by
        refine List.flatMap_congr fun t member => ?_
        cases visited : t.visit? with
        | none => rw [other' t member visited, other t member visited]
        | some v' => exact ih t member v' visited (nested' t member v' visited)
      rw [same]

/-- The errors of every turn are among them, one after the other. -/
theorem infix_of_mem {t : Turn} (h : Arises next v errors) (member : t ∈ v.turns next) :
    (∀ v', t.visit? = some v' → ∃ inner, Arises next v' inner ∧ inner <:+: errors) ∧
      (t.visit? = none → errorsOf (t.result next) <:+: errors) := by
  cases h with
  | intro inner nested other =>
    have among : inner t <:+: (v.turns next).flatMap inner := by
      rw [List.flatMap_def]
      exact List.infix_of_mem_flatten (List.mem_map_of_mem member)
    have part : inner t <:+: (v.turns next).flatMap inner ++ errorsOf (v.outcome next).1 :=
      among.trans (List.prefix_append _ _).isInfix
    refine ⟨fun v' visited => ⟨inner t, nested t member v' visited, part⟩, fun none => ?_⟩
    rw [← other t member none]
    exact part

/-- The error of the visit is the last one. -/
theorem own_mem {e : DeliveryError} (h : Arises next v errors)
    (own : (v.outcome next).1 = .error e) : e ∈ errors := by
  cases h with
  | intro inner nested other => exact List.mem_append_right _ (mem_errorsOf.2 own)

theorem of_turn_mem {t : Turn} {e : DeliveryError} (h : Arises next v errors)
    (member : t ∈ v.turns next) (error : t.result next = .error e) : e ∈ errors := by
  obtain ⟨visits, answers⟩ := h.infix_of_mem member
  cases visited : t.visit? with
  | none => exact (answers visited).subset (mem_errorsOf.2 error)
  | some v' =>
    obtain ⟨inner, h', part⟩ := visits v' visited
    rw [Turn.result_of_visit visited] at error
    exact part.subset (h'.own_mem error)

/-- The errors of a visit inside another one arise one after the other. -/
theorem of_nested {first : Visit} {ids : List Nat} (h : Arises next first errors)
    (nested : Nested next first ids v) : ∃ inner, Arises next v inner ∧ inner <:+: errors := by
  induction nested with
  | start => exact ⟨errors, h, List.infix_refl _⟩
  | ask inner asks visited ih =>
    obtain ⟨outer, h', part⟩ := ih
    obtain ⟨inner, h'', part'⟩ := (h'.infix_of_mem (Visit.ask_mem_turns.2 asks)).1 _ visited
    exact ⟨inner, h'', part'.trans part⟩

end Arises

/-! ## 3. Messages that are sent -/

namespace Visit.Within

variable {next : Delivery} {net : Network} {v v' : Visit} {errors : List DeliveryError}

/-- The visits of the turns are further visits in the network. -/
theorem of_turn (within : v.Within net) (keeps : Keeps next) {t : Turn} (member : t ∈ v.turns next)
    (visited : t.visit? = some v') : v'.Within net := by
  cases t with
  | answer result => cases visited
  | ask q => exact (within.visited keeps (ask_mem_turns.1 member) visited).1

/-- Every visit has its errors. -/
theorem arises (within : v.Within net) (keeps : Keeps next) : ∃ errors, Arises next v errors := by
  refine within.induct (motive := fun v => ∃ errors, Arises next v errors) keeps ?_
  intro v within ih
  have each : ∀ t, ∃ inner, t ∈ v.turns next →
      (∀ v', t.visit? = some v' → Arises next v' inner) ∧
        (t.visit? = none → inner = errorsOf (t.result next)) := by
    intro t
    by_cases member : t ∈ v.turns next
    · cases visited : t.visit? with
      | none => exact ⟨_, fun _ => ⟨fun v' found => (nomatch found), fun _ => rfl⟩⟩
      | some v' =>
        cases t with
        | answer result => cases visited
        | ask q =>
          obtain ⟨inner, h⟩ := ih q v' (ask_mem_turns.1 member) visited
          refine ⟨inner, fun _ => ⟨fun v'' found => ?_, fun found => (nomatch found)⟩⟩
          obtain rfl := Option.some.inj found
          exact h
    · exact ⟨[], fun inside => absurd inside member⟩
  choose inner h using each
  exact ⟨_, .intro inner (fun t member => (h t member).1) fun t member => (h t member).2⟩

/-- **A visit comes to the first fault of the configuration that arises.** -/
theorem find?_arises (within : v.Within net) (h : Arises routed v errors) :
    errors.find? (·.isConfig) = configFault (v.outcome routed).1 := by
  induction h with
  | @intro v inner nested other ih =>
    have each : ∀ t ∈ v.turns routed, (inner t).find? (·.isConfig) = t.fault routed := by
      intro t member
      cases visited : t.visit? with
      | none => rw [other t member visited, find?_errorsOf, Turn.fault]
      | some v' =>
        rw [ih t member v' visited (within.of_turn routed_keeps member visited), Turn.fault,
          Turn.result_of_visit visited]
    have turns : ((v.turns routed).flatMap inner).find? (·.isConfig) =
        (v.turns routed).findSome? (Turn.fault routed) := by
      rw [List.find?_flatMap, ← List.head?_filterMap, ← List.head?_filterMap,
        List.filterMap_congr each]
    rw [List.find?_append, turns, find?_errorsOf]
    cases first : (v.turns routed).findSome? (Turn.fault routed) with
    | none => rfl
    | some e =>
      rw [within.outcome_routed, configFault_of_turns first]
      rfl

/-- Where no fault arises, none comes of the turns. -/
theorem turns_of_no_fault (within : v.Within net) (h : Arises routed v errors)
    (none : errors.find? (·.isConfig) = none) :
    (v.turns routed).findSome? (Turn.fault routed) = Option.none := by
  cases first : (v.turns routed).findSome? (Turn.fault routed) with
  | none => rfl
  | some e =>
    rw [within.find?_arises h, within.outcome_routed, configFault_of_turns first] at none
    cases none

end Visit.Within

/-- **A message that is sent comes to the first fault of the configuration, and nothing else gets
out of a backlog.** The errors that arise are those of all turns of all visits, one after the other,
each behind those that arise inside it; the errors of a visit arise one behind the other. If one of
them is a fault of the configuration, the first of these is what comes of the message, and what
comes of a visit is the first one of its own. Where there is none, a sender that hands its message
over comes to what its settings say, whatever its handlers and their targets come to. -/
theorem send_first_fault (net : Network) (id : Nat) (m : Message) :
    let first : Visit := ⟨{}, id, m, net⟩
    ∃ errors, (∀ others, Arises routed first others ↔ others = errors) ∧
      (∀ e, errors.find? (·.isConfig) = some e ↔
        (net.send id m).1 = .error e ∧ e.isConfig = true) ∧
      ∀ ids v, Nested routed first ids v →
        v.outcome routed = v.outcome (deliverStep routed) ∧
        ∃ inner, Arises routed v inner ∧ inner <:+: errors ∧
          (∀ e, (v.outcome routed).1 = .error e → e ∈ inner) ∧
          (∀ t ∈ v.turns routed, ∀ e, t.result routed = .error e → e ∈ inner) ∧
          (∀ e, inner.find? (·.isConfig) = some e ↔
            (v.outcome routed).1 = .error e ∧ e.isConfig = true) ∧
          ∀ s h, v.net.targets[v.target]? = some (.sender s) →
            s.handover? v.route v.message v.net = some h → inner.find? (·.isConfig) = none →
            (v.outcome routed).1 =
              if s.settings.throwOnWriteFailure then .error (.exhausted s.name s.attempts h.error)
              else .ok () := by
  intro first
  have start : first.Within net := .first net id m
  obtain ⟨errors, arise⟩ := start.arises routed_keeps
  have only : ∀ others, Arises routed first others ↔ others = errors := fun others =>
    ⟨fun h => arise.unique h, fun same => same ▸ arise⟩
  refine ⟨errors, only, fun e => ?_, ?_⟩
  · rw [start.find?_arises arise]
    exact configFault_eq_some_iff
  intro ids v nested
  have within := nested.within routed_keeps start
  obtain ⟨inner, arise', part⟩ := arise.of_nested nested
  refine ⟨within.outcome_routed, inner, arise', part, fun e => arise'.own_mem,
    fun t member e => arise'.of_turn_mem member, fun e => ?_, fun s h here fails none => ?_⟩
  · rw [within.find?_arises arise']
    exact configFault_eq_some_iff
  · rw [within.outcome_routed, Visit.outcome_of_handover here fails,
      within.turns_of_no_fault arise' none]
    rfl

/-- The multi and the sender keep quiet of failures, but not of a fault that a delegate comes to,
and that is told before a later one. -/
example :
    let sender : Sender :=
      { name := "s", settings := { throwOnWriteFailure := false }, chain := {}, host := "h",
        backlog := { handlers := [.delegate "x" false, .delegate "y" false] },
        link := { target := "peer", outcomes := .always (.error .closed) } }
    let net : Network :=
      { targets := [.multi "all" ⟨["s", "z"]⟩, .sender sender,
          .external "x" (.always (.error (.closed "x"))),
          .external "y" (.always (.error (.config (.selfDelegation "early")))),
          .external "z" (.always (.error (.config (.selfDelegation "late"))))],
        registry := some ⟨.ofList [("s", 1), ("x", 2), ("y", 3), ("z", 4)], true⟩,
        now := ⟨1970, 1, 1, 0, 0, 0, 0, by decide⟩ }
    (configFault (net.send 0 {}).1).map (·.message) =
      some (ConfigError.selfDelegation "early").message := by
  decide +kernel

end Syslog
