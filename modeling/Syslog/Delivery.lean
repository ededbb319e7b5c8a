import Syslog.Network

/-!
# Delivery

A message is delivered to a target along a route. A sender writes it to its peer, and gives it to
its handlers if it cannot; a delegate among them, and a multi, deliver it to further targets along
the longer route. A target that is on the route refuses, so that no message goes round in a circle.

* `deliverStep` is one delivery, with the deliveries that it asks for as a parameter;
* `deliver` ties the knot: its first argument bounds how deep deliveries nest. There are never more
  deliveries inside one another than there are targets, and at the bound every target has been
  passed and refuses;
* the first error of the configuration is the result, wherever it arises; other errors of handlers
  stay with the sender.
-/

namespace Syslog

/-- How a message is delivered to the target at a position. -/
abbrev Delivery := Route → Nat → Message → Network → Except DeliveryError Unit × Network

/-- A delivery that is refused, for the message has passed the target before. -/
def refuse (name : String) (net : Network) : Except DeliveryError Unit × Network :=
  (.error (.config (.selfDelegation name)), net)

/-- Delivers to the target of a name; `owner` asks for it. -/
def deliverTo (next : Delivery) (owner name : String) (route : Route) (m : Message)
    (net : Network) : Except DeliveryError Unit × Network :=
  match net.registry with
  | none => (.error (.closed owner), net)
  | some registry =>
    match registry.lookup name with
    | .ok id => next route id m net
    | .error e => (.error (.registry e), net)

/-! ## 1. Handlers -/

/-- The error of the configuration in a result, if there is one. -/
def configFault : Except DeliveryError Unit → Option DeliveryError
  | .error e => if e.isConfig then some e else none
  | .ok () => none

/-- Gives a message that `sender` could not deliver to one handler. -/
def hand (next : Delivery) (sender : String) (m : Message) (reason : String) (route : Route)
    (h : Handler) (net : Network) : Except DeliveryError Unit × Handler × Network :=
  let (response, told) := h.receive sender m reason route
  let net := net.record told
  match response with
  | .done result after => (result, after, net)
  | .resend target m =>
    let (result, net) := deliverTo next target target route m net
    (result, h, net)

/-- Gives a message that `sender` could not deliver to all handlers in order, and tells the first
error of the configuration. -/
def handAll (next : Delivery) (sender : String) (m : Message) (reason : String) (route : Route) :
    List Handler → Network → Option DeliveryError × List Handler × Network
  | [], net => (none, [], net)
  | h :: rest, net =>
    let (result, h, net) := hand next sender m reason route h net
    let (later, rest, net) := handAll next sender m reason route rest net
    ((configFault result).or later, h :: rest, net)

/-- Gives a message to the handlers of a backlog. -/
def handToBacklog (next : Delivery) (b : Backlog) (sender : String) (m : Message) (reason : String)
    (route : Route) (net : Network) : Except DeliveryError Unit × Backlog × Network :=
  let (fault, handlers, net) := handAll next sender m reason route b.handlers net
  (match fault with | some e => .error e | none => .ok (), { b with handlers }, net)

/-! ## 2. Senders -/

/-- The sender at a position could not write a message: its backlog is told, and given the message.
-/
def escalate (next : Delivery) (route : Route) (id : Nat) (s : Sender) (m : Message)
    (error : TransportError) (net : Network) : Except DeliveryError Unit × Network :=
  let cause := error.message
  let (s, told) := s.noteFailed cause
  let (result, backlog, net) :=
    handToBacklog next s.backlog s.name m cause (route.extend s.name) (net.record told)
  let net := net.put id (.sender { s with backlog })
  match result with
  | .error e => (.error e, net)
  | .ok () =>
    (if s.settings.throwOnWriteFailure then .error (.exhausted s.name s.attempts error) else .ok (),
      net)

/-- The sender at a position delivers a message. -/
def deliverSender (next : Delivery) (route : Route) (id : Nat) (s : Sender) (m : Message)
    (net : Network) : Except DeliveryError Unit × Network :=
  if route.contains s.name then refuse s.name net
  else if s.closed then (.error (.closed s.name), net)
  else
    let (m, s) := s.prepare net.now m
    let (fate, s, told) := s.attemptAll (s.payload m)
    let net := net.record told
    match fate with
    | .written =>
      let (s, told) := s.noteWritten
      (.ok (), (net.record told).put id (.sender s))
    | .refused e => (.error (.transport e), net.put id (.sender s))
    | .failed e => escalate next route id s m e net

/-! ## 3. Multis -/

/-- What came of the targets of a multi. -/
structure FanOut where
  failed : List String := []
  fault : Option DeliveryError := none

/-- Delivers to one target of a multi. -/
def deliverOne (next : Delivery) (owner : String) (route : Route) (m : Message) (protocol : String)
    (net : Network) : Except DeliveryError Unit × Network :=
  if route.contains protocol then refuse protocol net
  else deliverTo next owner protocol route m net

/-- Delivers to the targets of a multi, one after the other. -/
def deliverEach (next : Delivery) (owner : String) (route : Route) (m : Message) :
    List String → Network → FanOut × Network
  | [], net => ({}, net)
  | protocol :: rest, net =>
    let (result, net) := deliverOne next owner route m protocol net
    let (out, net) := deliverEach next owner route m rest net
    match result with
    | .ok () => (out, net)
    | .error _ =>
      ({ failed := protocol :: out.failed, fault := (configFault result).or out.fault }, net)

/-- The multi of a name delivers a message. -/
def deliverMulti (next : Delivery) (route : Route) (name : String) (settings : MultiSettings)
    (m : Message) (net : Network) : Except DeliveryError Unit × Network :=
  if route.contains name then refuse name net
  else
    match net.registry with
    | none => (.error (.closed name), net)
    | some registry =>
      let (out, net) := deliverEach next name (route.extend name) m settings.protocols net
      match out.fault with
      | some e => (.error e, net)
      | none =>
        (if out.failed.isEmpty || registry.suppressErrors then .ok ()
          else .error (.multi name out.failed), net)

/-! ## 4. Targets -/

/-- One delivery to the target at a position. -/
def deliverStep (next : Delivery) : Delivery := fun route id m net =>
  match net.targets[id]? with
  | none => (.error (.registry (.unknown "")), net)
  | some (.sender s) => deliverSender next route id s m net
  | some (.multi name settings) => deliverMulti next route name settings m net
  | some (.external name answers) =>
    let (answer, answers) := answers.next
    (answer, (net.record [.received name m route]).put id (.external name answers))

/-- Delivers a message to the target at a position, with at most so many deliveries inside one
another. -/
def deliver : Nat → Delivery
  | 0 => fun _ id _ net => refuse ((net.targets[id]?.map (·.name)).getD "") net
  | depth + 1 => deliverStep (deliver depth)

namespace Network

/-- Sends a message along a route to the target at a position. -/
def sendRouted (net : Network) (route : Route) (id : Nat) (m : Message) :
    Except DeliveryError Unit × Network :=
  deliver (net.targets.length + 1) route id m net

/-- Sends a message to the target at a position. -/
def send (net : Network) (id : Nat) (m : Message) : Except DeliveryError Unit × Network :=
  net.sendRouted {} id m

end Network

end Syslog
