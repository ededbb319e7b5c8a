import Syslog.Delivery
import Syslog.Proofs.Sender
import Syslog.Proofs.Text.Case

/-!
# Deliveries inside deliveries

While a target delivers a message it may ask for further deliveries: a sender that cannot write asks
through its delegates, a multi for each target of its list. This file says which deliveries those
are, and that a delivery depends on nothing else.

* `SameTargets`, `Keeps`: deliveries change neither the registry nor the names of targets;
* `Handover`: what a sender that cannot write gives to its handlers;
* `Visit`, `Request`: a message at a target, and the wish to bring one to a target of some name;
* `Asks`: the requests that a visit makes;
* `deliverStep_congr`: what comes of a visit depends on what comes of these requests;
* `Ends`: a visit that comes to an end, told without a bound on the depth; `Ends.unique`.
-/

namespace Syslog

/-! ## 1. What deliveries leave as it is -/

/-- Does the target look at the routes of messages? -/
def Target.looks : Target → Bool
  | .sender _ | .multi .. => true
  | .external .. => false

namespace Network

/-- The same names for the same targets. -/
structure SameTargets (net net' : Network) : Prop where
  registry : net'.registry = net.registry
  targets : net'.targets.map (fun t => (t.name, t.looks)) =
    net.targets.map fun t => (t.name, t.looks)

@[simp] theorem record_nil (net : Network) : net.record [] = net := by
  simp only [record, List.append_nil]

theorem record_record (net : Network) (told more : List Effect) :
    (net.record told).record more = net.record (told ++ more) := by
  simp only [record, List.append_assoc]

namespace SameTargets

variable {net net' net'' : Network}

theorem refl (net : Network) : net.SameTargets net := ⟨rfl, rfl⟩

theorem trans (h : net.SameTargets net') (h' : net'.SameTargets net'') : net.SameTargets net'' :=
  ⟨h'.registry.trans h.registry, h'.targets.trans h.targets⟩

theorem record (h : net.SameTargets net') (told : List Effect) :
    net.SameTargets (net'.record told) := ⟨h.registry, h.targets⟩

theorem symm (h : net.SameTargets net') : net'.SameTargets net :=
  ⟨h.registry.symm, h.targets.symm⟩

theorem length (h : net.SameTargets net') : net'.targets.length = net.targets.length := by
  simpa using congrArg List.length h.targets

/-- Where there was a target, there is one of its name. -/
theorem target (h : net.SameTargets net') {id : Nat} {t : Target}
    (here : net.targets[id]? = some t) :
    ∃ t', net'.targets[id]? = some t' ∧ t'.name = t.name ∧ t'.looks = t.looks := by
  have same := congrArg (·[id]?) h.targets
  simp only [List.getElem?_map, here, Option.map_some, Option.map_eq_some_iff, Prod.mk.injEq]
    at same
  exact same

/-- A target makes place for one of its name. -/
theorem put (h : net.SameTargets net') {id : Nat} {t t' : Target}
    (here : net.targets[id]? = some t) (name : t'.name = t.name) (looks : t'.looks = t.looks) :
    net.SameTargets (net'.put id t') := by
  refine ⟨h.registry, ?_⟩
  rw [← h.targets]
  obtain ⟨old, there, name', looks'⟩ := h.target here
  obtain ⟨inside, -⟩ := List.getElem?_eq_some_iff.1 there
  refine List.ext_getElem? fun k => ?_
  simp only [Network.put, List.getElem?_map, List.getElem?_set]
  by_cases same : id = k
  · subst same
    simp only [if_pos inside, if_true, there, Option.map_some, name, looks, name', looks']
  · simp only [if_neg same]

end SameTargets

end Network

open Network

/-- A delivery that changes neither the registry nor the names of targets. -/
def Keeps (next : Delivery) : Prop :=
  ∀ route id m (net : Network), net.SameTargets (next route id m net).2

section Keeps

variable {next : Delivery} {net net' : Network} {route : Route} {m : Message}

theorem deliverTo_keeps (keeps : Keeps next) (owner name : String) (h : net.SameTargets net') :
    net.SameTargets (deliverTo next owner name route m net').2 := by
  unfold deliverTo
  split
  · exact h
  · split
    · exact h.trans (keeps _ _ _ _)
    · exact h

/-- What one handler does, by its answer. -/
theorem hand_eq (next : Delivery) (sender : String) (m : Message) (reason : String) (route : Route)
    (handler : Handler) (net : Network) :
    hand next sender m reason route handler net =
      match (handler.receive sender m reason route).1 with
      | .done result after =>
        (result, after, net.record (handler.receive sender m reason route).2)
      | .resend target m' =>
        let out := deliverTo next target target route m'
          (net.record (handler.receive sender m reason route).2)
        (out.1, handler, out.2) := rfl

theorem hand_keeps (keeps : Keeps next) (sender reason : String) (handler : Handler)
    (h : net.SameTargets net') :
    net.SameTargets (hand next sender m reason route handler net').2.2 := by
  rw [hand_eq]
  split
  · exact h.record _
  · exact deliverTo_keeps keeps _ _ (h.record _)

theorem handAll_cons (next : Delivery) (sender : String) (m : Message) (reason : String)
    (route : Route) (handler : Handler) (rest : List Handler) (net : Network) :
    handAll next sender m reason route (handler :: rest) net =
      let first := hand next sender m reason route handler net
      let later := handAll next sender m reason route rest first.2.2
      ((configFault first.1).or later.1, first.2.1 :: later.2.1, later.2.2) := rfl

theorem handAll_keeps (keeps : Keeps next) (sender reason : String) (handlers : List Handler)
    (h : net.SameTargets net') :
    net.SameTargets (handAll next sender m reason route handlers net').2.2 := by
  induction handlers generalizing net' with
  | nil => exact h
  | cons handler rest ih => exact ih (hand_keeps keeps sender reason handler h)

theorem deliverOne_keeps (keeps : Keeps next) (owner protocol : String)
    (h : net.SameTargets net') :
    net.SameTargets (deliverOne next owner route m protocol net').2 := by
  unfold deliverOne
  split
  · exact h
  · exact deliverTo_keeps keeps _ _ h

/-- What a target of a multi adds to what came of those after it. -/
def FanOut.note (protocol : String) (result : Except DeliveryError Unit) (later : FanOut) :
    FanOut :=
  match result with
  | .ok () => later
  | .error _ =>
    { failed := protocol :: later.failed, fault := (configFault result).or later.fault }

theorem deliverEach_cons (next : Delivery) (owner : String) (route : Route) (m : Message)
    (protocol : String) (rest : List String) (net : Network) :
    deliverEach next owner route m (protocol :: rest) net =
      let first := deliverOne next owner route m protocol net
      let later := deliverEach next owner route m rest first.2
      (later.1.note protocol first.1, later.2) := by
  rw [deliverEach]
  generalize deliverOne next owner route m protocol net = first
  obtain ⟨result, net⟩ := first
  cases result <;> rfl

theorem deliverEach_keeps (keeps : Keeps next) (owner : String) (protocols : List String)
    (h : net.SameTargets net') :
    net.SameTargets (deliverEach next owner route m protocols net').2 := by
  induction protocols generalizing net' with
  | nil => exact h
  | cons protocol rest ih =>
    rw [deliverEach_cons]
    exact ih (deliverOne_keeps keeps owner protocol h)

end Keeps

/-! ## 2. Senders that hand a message over -/

/-- What a sender that could not write hands to its handlers, and the network then. -/
structure Handover where
  sender : Sender
  message : Message
  error : TransportError
  net : Network

namespace Sender

variable {s : Sender}

/-- What the sender hands over when it is given a message: nothing if it refuses, is closed or can
write, or if there is no connection to be had. -/
def handover? (s : Sender) (route : Route) (m : Message) (net : Network) : Option Handover :=
  if route.contains s.name || s.closed then none
  else
    let prepared := s.prepare net.now m
    let attempts := prepared.2.attemptAll (prepared.2.payload prepared.1)
    match attempts.1 with
    | .failed e =>
      let noted := attempts.2.1.noteFailed e.message
      some ⟨noted.1, prepared.1, e, (net.record attempts.2.2).record noted.2⟩
    | .written | .refused _ => none

/-- The answer of a sender that could not write, by the fault that its handlers found. -/
def verdict (s : Sender) (e : TransportError) : Option DeliveryError → Except DeliveryError Unit
  | some fault => .error fault
  | none =>
    if s.settings.throwOnWriteFailure then .error (.exhausted s.name s.attempts e) else .ok ()

end Sender

section Senders

variable {s : Sender} {route : Route} {m : Message} {net : Network} (next : Delivery) (id : Nat)

theorem noteFailed_name (cause : String) : (s.noteFailed cause).1.name = s.name := rfl

theorem noteFailed_handlers (cause : String) :
    (s.noteFailed cause).1.backlog.handlers = s.backlog.handlers := by
  simp only [Sender.noteFailed, Backlog.noteDown, Backlog.markDown]
  split <;> rfl

/-- What a sender does that could not write. -/
theorem escalate_eq (e : TransportError) :
    escalate next route id s m e net =
      let noted := s.noteFailed e.message
      let out := handAll next s.name m e.message (route.extend s.name) noted.1.backlog.handlers
        (net.record noted.2)
      (s.verdict e out.1,
        out.2.2.put id (.sender
          { noted.1 with backlog := { noted.1.backlog with handlers := out.2.1 } })) := by
  simp only [escalate, handToBacklog, noteFailed_name]
  generalize handAll next s.name m e.message (route.extend s.name)
    (s.noteFailed e.message).1.backlog.handlers (net.record (s.noteFailed e.message).2) = out
  obtain ⟨fault, handlers, net⟩ := out
  cases fault <;> rfl

/-- A sender that does not refuse and is not closed. -/
theorem deliverSender_open (new : route.contains s.name = false) (isOpen : s.closed = false) :
    let prepared := s.prepare net.now m
    let attempts := prepared.2.attemptAll (prepared.2.payload prepared.1)
    deliverSender next route id s m net =
      match attempts.1 with
      | .written =>
        let noted := attempts.2.1.noteWritten
        (.ok (), ((net.record attempts.2.2).record noted.2).put id (.sender noted.1))
      | .refused e =>
        (.error (.transport e), (net.record attempts.2.2).put id (.sender attempts.2.1))
      | .failed e =>
        escalate next route id attempts.2.1 prepared.1 e (net.record attempts.2.2) := by
  intro prepared attempts
  refine (if_neg (by simp [new])).trans ((if_neg (by simp [isOpen])).trans ?_)
  rfl

/-- A sender hands something over when it neither refuses nor is closed and all its attempts fail;
it has noted that it is down. -/
theorem handover?_eq_some {h : Handover} (fails : s.handover? route m net = some h) :
    route.contains s.name = false ∧ s.closed = false ∧ ∃ retries e,
      let noted := (s.spent net.now m retries).noteFailed e.message
      (s.prepare net.now m).2.attemptAll ((s.prepare net.now m).2.payload (s.prepare net.now m).1) =
        (.failed e, s.spent net.now m retries, s.writes net.now m retries) ∧
      h = ⟨noted.1, (s.prepare net.now m).1, e,
        (net.record (s.writes net.now m retries)).record noted.2⟩ := by
  unfold Sender.handover? at fails
  split at fails
  · cases fails
  · rename_i ready
    simp only [Bool.or_eq_true, not_or, Bool.not_eq_true] at ready
    obtain ⟨retries, fate, -, eq⟩ := s.attemptAll_prepare net.now m
    simp only [eq] at fails
    cases fate with
    | failed e => exact ⟨ready.1, ready.2, retries, e, eq, (Option.some.inj fails).symm⟩
    | written => cases fails
    | refused e => cases fails

/-- A sender that hands its message over. -/
theorem deliverSender_of_handover {h : Handover} (fails : s.handover? route m net = some h) :
    deliverSender next route id s m net =
      let out := handAll next s.name h.message h.error.message (route.extend s.name)
        h.sender.backlog.handlers h.net
      (s.verdict h.error out.1,
        out.2.2.put id (.sender
          { h.sender with backlog := { h.sender.backlog with handlers := out.2.1 } })) := by
  obtain ⟨new, isOpen, retries, e, eq, rfl⟩ := handover?_eq_some fails
  rw [deliverSender_open next id new isOpen]
  simp only [eq]
  exact escalate_eq next id e

/-- A sender that hands nothing over does the same whatever its surroundings are, and it changes
nothing but itself. -/
theorem deliverSender_of_no_handover (here : net.targets[id]? = some (.sender s))
    (done : s.handover? route m net = none) :
    ∃ out : Except DeliveryError Unit × Network,
      net.SameTargets out.2 ∧ ∀ next, deliverSender next route id s m net = out := by
  by_cases refuses : route.contains s.name = true
  · exact ⟨refuse s.name net, .refl net, fun next => by rw [deliverSender, if_pos refuses]⟩
  by_cases closed : s.closed = true
  · exact ⟨(.error (.closed s.name), net), .refl net,
      fun next => by rw [deliverSender, if_neg refuses, if_pos closed]⟩
  simp only [Bool.not_eq_true] at refuses closed
  simp only [Sender.handover?, refuses, closed, Bool.or_self, Bool.false_eq_true, if_false] at done
  simp only [deliverSender_open _ id refuses closed]
  obtain ⟨retries, fate, -, eq⟩ := s.attemptAll_prepare net.now m
  simp only [eq] at done ⊢
  cases fate with
  | written =>
    refine ⟨_, ?_, fun _ => rfl⟩
    exact (((SameTargets.refl net).record _).record _).put here rfl rfl
  | refused e =>
    refine ⟨_, ?_, fun _ => rfl⟩
    exact ((SameTargets.refl net).record _).put here rfl rfl
  | failed e => cases done

/-- A sender that hands something over does not refuse; it keeps its name and its handlers, and the
network is the same but for what was done. -/
theorem handover_frame {h : Handover} (fails : s.handover? route m net = some h) :
    route.contains s.name = false ∧ h.sender.name = s.name ∧
      h.sender.backlog.handlers = s.backlog.handlers ∧ ∃ told, h.net = net.record told := by
  obtain ⟨new, -, retries, e, -, rfl⟩ := handover?_eq_some fails
  exact ⟨new, rfl, noteFailed_handlers e.message, _, net.record_record _ _⟩

end Senders

/-! ## 3. One delivery keeps the names -/

theorem deliverSender_keeps {next : Delivery} (keeps : Keeps next) {net : Network} {id : Nat}
    {s : Sender} (here : net.targets[id]? = some (.sender s)) (route : Route) (m : Message) :
    net.SameTargets (deliverSender next route id s m net).2 := by
  cases fails : s.handover? route m net with
  | none =>
    obtain ⟨out, same, eq⟩ := deliverSender_of_no_handover id here fails
    rw [eq next]
    exact same
  | some h =>
    obtain ⟨-, name, -, told, same⟩ := handover_frame fails
    rw [deliverSender_of_handover next id fails]
    exact (handAll_keeps keeps _ _ _ (same ▸ (SameTargets.refl net).record told)).put here name rfl

/-- A multi that does not refuse: what comes of its targets decides on the answer. -/
theorem deliverMulti_open {route : Route} {name : String} {net : Network} {registry : Registry Nat}
    (new : route.contains name = false) (present : net.registry = some registry)
    (next : Delivery) (settings : MultiSettings) (m : Message) :
    deliverMulti next route name settings m net =
      let out := deliverEach next name (route.extend name) m settings.protocols net
      (match out.1.fault with
        | some e => .error e
        | none =>
          if out.1.failed.isEmpty || registry.suppressErrors then .ok ()
          else .error (.multi name out.1.failed),
        out.2) := by
  rw [deliverMulti, if_neg (by simp [new]), present]
  dsimp only
  generalize deliverEach next name (route.extend name) m settings.protocols net = out
  obtain ⟨⟨failed, fault⟩, net'⟩ := out
  cases fault <;> rfl

theorem deliverMulti_keeps {next : Delivery} (keeps : Keeps next) (route : Route) (name : String)
    (settings : MultiSettings) (m : Message) (net : Network) :
    net.SameTargets (deliverMulti next route name settings m net).2 := by
  by_cases refuses : route.contains name = true
  · rw [deliverMulti, if_pos refuses]
    exact .refl net
  · cases present : net.registry with
    | none =>
      rw [deliverMulti, if_neg refuses, present]
      exact .refl net
    | some registry =>
      rw [deliverMulti_open (by simpa using refuses) present]
      exact deliverEach_keeps keeps name settings.protocols (.refl net)

theorem deliverStep_keeps {next : Delivery} (keeps : Keeps next) : Keeps (deliverStep next) := by
  intro route id m net
  unfold deliverStep
  split
  · exact .refl net
  · rename_i s here
    exact deliverSender_keeps keeps here route m
  · exact deliverMulti_keeps keeps route _ _ m net
  · rename_i here
    exact ((SameTargets.refl net).record _).put here rfl rfl

theorem deliver_keeps (depth : Nat) : Keeps (deliver depth) := by
  induction depth with
  | zero => exact fun _ _ _ net => .refl net
  | succ depth ih => exact deliverStep_keeps ih

/-! ## 4. Visits and requests -/

/-- A message at a target: the route that has led there, and the position of the target. -/
structure Visit where
  route : Route
  target : Nat
  message : Message
  net : Network

/-- What comes of the visit. -/
def Visit.outcome (v : Visit) (next : Delivery) : Except DeliveryError Unit × Network :=
  next v.route v.target v.message v.net

/-- The wish for a delivery by name. The one who asks refuses if the route contains the name as
`checked`. -/
structure Request where
  route : Route
  checked : String
  name : String
  owner : String
  message : Message
  net : Network

namespace Request

/-- What a delegate asks for. -/
def byDelegate (target : String) (appendReason : Bool) (m : Message) (reason : String)
    (route : Route) (net : Network) : Request :=
  ⟨route, Text.trim target, target, target, Handler.forwarded appendReason m reason, net⟩

/-- What the multi of a name asks for. -/
def byMulti (owner protocol : String) (route : Route) (m : Message) (net : Network) : Request :=
  ⟨route, protocol, protocol, owner, m, net⟩

/-- The position of the target that the name stands for. -/
def target? (q : Request) : Option Nat := q.net.registry.bind (·.get? q.name)

/-- The visit that the request leads to, if it leads to one. -/
def visit? (q : Request) : Option Visit :=
  if q.route.contains q.checked then none
  else q.target?.map fun id => ⟨q.route, id, q.message, q.net⟩

/-- What comes of the request. -/
def settle (next : Delivery) (q : Request) : Except DeliveryError Unit × Network :=
  if q.route.contains q.checked then refuse q.checked q.net
  else deliverTo next q.owner q.name q.route q.message q.net

variable {next next' : Delivery} {q : Request}

theorem visit?_eq_some {v : Visit} :
    q.visit? = some v ↔ q.route.contains q.checked = false ∧
      ∃ id, q.target? = some id ∧ v = ⟨q.route, id, q.message, q.net⟩ := by
  unfold visit?
  split
  · rename_i passed
    simp [passed]
  · rename_i new
    rw [Option.map_eq_some_iff]
    simp [new, eq_comm]

/-- What comes of a request is what comes of its visit. -/
theorem settle_of_visit {v : Visit} (h : q.visit? = some v) : q.settle next = v.outcome next := by
  obtain ⟨new, id, found, rfl⟩ := visit?_eq_some.1 h
  obtain ⟨registry, present, bound⟩ := Option.bind_eq_some_iff.1 found
  have lookup : registry.lookup q.name = .ok id := by rw [Registry.lookup, bound]
  simp [settle, new, deliverTo, present, lookup, Visit.outcome]

/-- A request that leads to no visit comes to the same in all surroundings. -/
theorem settle_congr (h : ∀ v, q.visit? = some v → v.outcome next = v.outcome next') :
    q.settle next = q.settle next' := by
  cases visited : q.visit? with
  | some v => rw [settle_of_visit visited, settle_of_visit visited, h v visited]
  | none =>
    unfold visit? at visited
    unfold settle
    split at visited
    · rename_i passed
      rw [if_pos passed, if_pos passed]
    · rename_i new
      rw [if_neg new, if_neg new]
      have missing := Option.map_eq_none_iff.1 visited
      unfold target? at missing
      unfold deliverTo
      split
      · rfl
      · rename_i registry present
        rw [present] at missing
        have lookup : registry.lookup q.name = .error (.unknown (Registry.normalize q.name)) := by
          rw [Registry.lookup, show registry.get? q.name = none from missing]
        rw [lookup]

end Request

theorem deliverOne_eq (next : Delivery) (owner : String) (route : Route) (m : Message)
    (protocol : String) (net : Network) :
    deliverOne next owner route m protocol net =
      (Request.byMulti owner protocol route m net).settle next := rfl

theorem Route.contains_extend (route : Route) (hop name : String) :
    (route.extend hop).contains name =
      (route.contains name || Text.equalIgnoringAsciiCase hop name) := by
  simp [contains, extend]

/-- The sender is on the route that it hands on, so that its delegates need not look at it by
itself. -/
theorem receive_delegate (sender target : String) (appendReason : Bool) (m : Message)
    (reason : String) (route : Route) :
    (Handler.delegate target appendReason).receive sender m reason (route.extend sender) =
      if (route.extend sender).contains (Text.trim target) then
        (.done (.error (.config (.selfDelegation (Text.trim target))))
          (.delegate target appendReason), [])
      else (.resend target (Handler.forwarded appendReason m reason), []) := by
  have own : (Text.equalIgnoringAsciiCase (Text.trim target) sender ||
      (route.extend sender).contains (Text.trim target)) =
      (route.extend sender).contains (Text.trim target) := by
    rw [Route.contains_extend, Text.equalIgnoringAsciiCase_comm]
    cases Text.equalIgnoringAsciiCase sender (Text.trim target) <;> simp
  simp only [Handler.receive, own]

theorem hand_delegate (next : Delivery) (sender target : String) (appendReason : Bool) (m : Message)
    (reason : String) (route : Route) (net : Network) :
    hand next sender m reason (route.extend sender) (.delegate target appendReason) net =
      let out := Request.settle next
        (.byDelegate target appendReason m reason (route.extend sender) net)
      (out.1, .delegate target appendReason, out.2) := by
  rw [hand_eq, receive_delegate]
  unfold Request.settle Request.byDelegate
  dsimp only
  by_cases passed : (route.extend sender).contains (Text.trim target) = true
  · simp only [if_pos passed, record_nil, refuse]
  · simp only [if_neg passed, record_nil]

/-! ## 5. What a visit asks for -/

/-- The requests that a visit makes, when `next` delivers. Each is made in the network that those
before it have left. -/
inductive Asks (next : Delivery) (v : Visit) : Request → Prop
  | delegate {s : Sender} {h : Handover} {target : String} {appendReason : Bool}
      {before after : List Handler} (here : v.net.targets[v.target]? = some (.sender s))
      (fails : s.handover? v.route v.message v.net = some h)
      (handlers : h.sender.backlog.handlers = before ++ .delegate target appendReason :: after) :
      Asks next v (.byDelegate target appendReason h.message h.error.message (v.route.extend s.name)
        (handAll next s.name h.message h.error.message (v.route.extend s.name) before h.net).2.2)
  | protocol {name protocol : String} {settings : MultiSettings} {registry : Registry Nat}
      {before after : List String} (here : v.net.targets[v.target]? = some (.multi name settings))
      (new : v.route.contains name = false) (present : v.net.registry = some registry)
      (protocols : settings.protocols = before ++ protocol :: after) :
      Asks next v (.byMulti name protocol (v.route.extend name) v.message
        (deliverEach next name (v.route.extend name) v.message before v.net).2)

/-- Who asks looks at the route and is not on it; it is the last hop of the request. -/
theorem Asks.frame {next : Delivery} (keeps : Keeps next) {v : Visit} {q : Request}
    (asks : Asks next v q) :
    v.net.SameTargets q.net ∧ Registry.normalize q.checked = Registry.normalize q.name ∧
      ∃ t, v.net.targets[v.target]? = some t ∧ t.looks = true ∧
        v.route.contains t.name = false ∧ q.route = v.route.extend t.name := by
  cases asks with
  | delegate here fails handlers =>
    obtain ⟨new, -, -, told, same⟩ := handover_frame fails
    refine ⟨handAll_keeps keeps _ _ _ ?_, Registry.normalize_trim _, _, here, rfl, new, rfl⟩
    exact same ▸ (SameTargets.refl v.net).record told
  | protocol here new present protocols =>
    exact ⟨deliverEach_keeps keeps _ _ (.refl v.net), rfl, _, here, rfl, new, rfl⟩

section Congruence

variable {next next' : Delivery}

/-- Handlers do the same in surroundings that do the same with what the delegates ask for, each in
the network that the handlers before it have left. -/
theorem handAll_congr {sender reason : String} {m : Message} {route : Route}
    {handlers : List Handler} {net : Network}
    (same : ∀ before target appendReason after,
      handlers = before ++ .delegate target appendReason :: after →
      handAll next sender m reason (route.extend sender) before net =
        handAll next' sender m reason (route.extend sender) before net →
      let q := Request.byDelegate target appendReason m reason (route.extend sender)
        (handAll next sender m reason (route.extend sender) before net).2.2
      q.settle next = q.settle next') :
    handAll next sender m reason (route.extend sender) handlers net =
      handAll next' sender m reason (route.extend sender) handlers net := by
  induction handlers generalizing net with
  | nil => rfl
  | cons handler rest ih =>
    -- only a delegate looks at its surroundings
    have first : hand next sender m reason (route.extend sender) handler net =
        hand next' sender m reason (route.extend sender) handler net := by
      cases handler with
      | delegate target appendReason =>
        have agree := same [] target appendReason rest rfl rfl
        simp only [handAll] at agree
        simp only [hand_delegate, agree]
      | tracing | null | custom => rfl
    have later := @ih (hand next sender m reason (route.extend sender) handler net).2.2
      fun before target appendReason after eq agree =>
        same (handler :: before) target appendReason after (by rw [eq]; rfl)
          (by rw [handAll_cons, handAll_cons]; dsimp only; rw [agree, first])
    rw [handAll_cons, handAll_cons]
    dsimp only
    rw [later, first]

/-- The same for the targets of a multi. -/
theorem deliverEach_congr {owner : String} {m : Message} {route : Route} {protocols : List String}
    {net : Network}
    (same : ∀ before protocol after, protocols = before ++ protocol :: after →
      deliverEach next owner route m before net = deliverEach next' owner route m before net →
      let q := Request.byMulti owner protocol route m (deliverEach next owner route m before net).2
      q.settle next = q.settle next') :
    deliverEach next owner route m protocols net =
      deliverEach next' owner route m protocols net := by
  induction protocols generalizing net with
  | nil => rfl
  | cons protocol rest ih =>
    have first : deliverOne next owner route m protocol net =
        deliverOne next' owner route m protocol net := by
      rw [deliverOne_eq, deliverOne_eq]
      exact same [] protocol rest rfl rfl
    have later := @ih (deliverOne next owner route m protocol net).2
      fun before protocol' after eq agree => by
        have eq' := same (protocol :: before) protocol' after (by rw [eq]; rfl)
          (by rw [deliverEach_cons, deliverEach_cons]; dsimp only; rw [agree, first])
        simpa only [deliverEach_cons] using eq'
    rw [deliverEach_cons, deliverEach_cons]
    dsimp only
    rw [later, first]

/-- **What comes of a visit depends on what comes of its requests, and on nothing else.** -/
theorem deliverStep_congr {v : Visit}
    (same : ∀ q, Asks next v q → Asks next' v q → q.settle next = q.settle next') :
    v.outcome (deliverStep next) = v.outcome (deliverStep next') := by
  simp only [Visit.outcome, deliverStep]
  split
  · rfl
  · rename_i s here
    cases fails : s.handover? v.route v.message v.net with
    | none =>
      obtain ⟨out, -, eq⟩ := deliverSender_of_no_handover v.target here fails
      rw [eq, eq]
    | some h =>
      have handlers : handAll next s.name h.message h.error.message (v.route.extend s.name)
          h.sender.backlog.handlers h.net = handAll next' s.name h.message h.error.message
          (v.route.extend s.name) h.sender.backlog.handlers h.net :=
        handAll_congr fun before target appendReason after eq agree =>
          same _ (.delegate here fails eq) (agree ▸ .delegate here fails eq)
      rw [deliverSender_of_handover next _ fails, deliverSender_of_handover next' _ fails, handlers]
  · rename_i name settings here
    by_cases refuses : v.route.contains name = true
    · rw [deliverMulti, deliverMulti, if_pos refuses, if_pos refuses]
    · cases present : v.net.registry with
      | none => rw [deliverMulti, deliverMulti, if_neg refuses, if_neg refuses, present]
      | some registry =>
        have new : v.route.contains name = false := by simpa using refuses
        have targets : deliverEach next name (v.route.extend name) v.message settings.protocols
            v.net = deliverEach next' name (v.route.extend name) v.message settings.protocols
            v.net :=
          deliverEach_congr fun before protocol after eq agree =>
            same _ (.protocol here new present eq) (agree ▸ .protocol here new present eq)
        rw [deliverMulti_open new present, deliverMulti_open new present, targets]
  · rfl

end Congruence

/-! ## 6. Visits that end -/

/-- The visit ends, and this is what comes of it. Nothing is said of how deep visits nest, only that
every visit which this one leads to ends as well. -/
inductive Ends : Visit → Except DeliveryError Unit × Network → Prop
  | intro (next : Delivery) (v : Visit)
      (nested : ∀ q, Asks next v q → ∀ v', q.visit? = some v' → Ends v' (v'.outcome next)) :
      Ends v (v.outcome (deliverStep next))

/-- **A visit ends in one way only.** -/
theorem Ends.unique {v : Visit} {out out' : Except DeliveryError Unit × Network} (h : Ends v out)
    (h' : Ends v out') : out' = out := by
  induction h generalizing out' with
  | intro next v nested ih =>
    cases h' with
    | intro next' _ nested' =>
      -- a request counts only if both sides make it, so that its visit ends on both sides
      refine (deliverStep_congr fun q asks asks' => Request.settle_congr fun v' visited => ?_).symm
      exact (ih q asks v' visited (nested' q asks' v' visited)).symm

end Syslog
