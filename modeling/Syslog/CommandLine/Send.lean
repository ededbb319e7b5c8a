import Syslog.Client
import Syslog.CommandLine.Arguments
import Syslog.CommandLine.Failure
import Syslog.Sender.Edit

/-!
# Sending from the command line

One message goes through a target of a configuration, with the settings that the options change, or
through a sender that exists for this message only.

What becomes of the message depends on how its writes end, which is learnt one write after the
other: `Sending.next` is the first write that is not answered yet, or the result. What comes before
an unanswered write depends on the earlier answers alone, so the writes are those of one delivery.
-/

namespace Syslog.CommandLine

/-! ## 1. Settings -/

/-- The host to which a message goes if no other is given. -/
def oneOffHost : String := "127.0.0.1"

namespace SendArguments

/-- The text of the message: the words, with blanks between them. -/
def text (a : SendArguments) : String := " ".intercalate a.words

/-- The changes of settings that the options ask for. -/
def edits (a : SendArguments) : List Edit :=
  (a.host.map .host).toList ++ (a.port.map .port).toList ++ (a.facility.map .facility).toList ++
    (a.ident.map .ident).toList

/-- The transport of a sender that exists for one message. -/
def transport (a : SendArguments) : Except Failure TransportSettings := do
  if a.protocol == .unix then
    if a.host.isSome || a.port.isSome then
      .error (.because "--host and --port do not apply to unix sockets" [])
    match a.path with
    | some path => return { kind := .unix, path, socketType := a.socketType }
    | none => .error (.because "--protocol unix needs --path" [])
  else
    return { kind := a.protocol, host := a.host.getD oneOffHost, port := a.port.getD defaultPort }

/-- The settings of a sender that exists for one message. -/
def sender (a : SendArguments) : Except Failure SenderSettings := do
  return {
    transport := ← a.transport
    format := a.format.getD .bsd
    facility := a.facility.getD .user
    ident := a.ident }

/-- The binding of a name in any spelling. -/
def find? {α : Type} (d : Dict α) (name : String) : Option (String × α) :=
  d.entries.find? fun e => Registry.normalize e.1 == Registry.normalize name

/-- A configuration with the changes for one target, and the facility of a message through it. -/
def configure (a : SendArguments) (target : String) (c : Configuration) :
    Except ConfigError (Configuration × Facility) := do
  match find? c.senders target, find? c.multis target with
  | some (key, s), _ =>
    let s ← a.edits.foldlM SenderSettings.edit s
    let s := { s with format := a.format.getD s.format }
    return ({ c with senders := c.senders.insert key s }, s.facility)
  | none, some (key, m) =>
    let m ← a.edits.foldlM MultiSettings.edit m
    return ({ c with multis := c.multis.insert key m }, .user)
  | none, none => return (c, .user)

end SendArguments

/-! ## 2. Sending -/

/-- The part of the program that logs what cannot be sent. -/
def backlogTarget : String := "syslane_client::backlog::handlers"

/-- A message, and the target that it is sent to. -/
structure Sending where
  network : Network
  target : Nat
  message : Message
  /-- What is said if it cannot be sent. -/
  complaint : String

namespace Sending

/-- Sends through a target of a configuration. -/
def configured (machine : Machine) (now : Time.DateTime) (a : SendArguments) (target : String)
    (c : Configuration) : Except (Breakdown Failure) Sending := do
  let (c, facility) ← Breakdown.report
    ((a.configure target c).mapError fun e => .ofChain e.chain)
  Breakdown.report (c.check.mapError fun e => .because "invalid overrides" e.chain)
  let network ← (Network.ofConfiguration machine now c).mapError
    (·.map fun e => .ofChain e.chain)
  let id ← Breakdown.report
    (((network.registry.getD {}).lookup target).mapError fun e => .because e.message [])
  return {
    network
    target := id
    message := { facility, severity := a.severity, body := a.text }
    complaint := "send through " ++ target ++ " failed" }

/-- Sends through a sender that exists for one message. -/
def oneOff (machine : Machine) (now : Time.DateTime) (a : SendArguments) :
    Except (Breakdown Failure) Sending := do
  let settings ← Breakdown.report a.sender
  let sender ← (Sender.establish machine "send" settings).mapError
    (·.map fun e => .ofChain e.chain)
  let (id, network) := ({ registry := none, now } : Network).add (.sender sender)
  return {
    network
    target := id
    message := { facility := settings.facility, severity := a.severity, body := a.text }
    complaint := "send failed" }

/-- Sends as the options say. -/
def start (machine : Machine) (now : Time.DateTime) (a : SendArguments)
    (config : Option Configuration) : Except (Breakdown Failure) Sending :=
  match a.target, config with
  | some target, some c => configured machine now a target c
  | some _, none => .error (.reported (.because "--target needs --config" []))
  | none, _ => oneOff machine now a

/-- How a write of a sender has ended. -/
structure Answer where
  sender : String
  outcome : Except TransportError Unit

/-- The network in which the writes end as is known; others succeed. -/
def answer (answers : List Answer) (net : Network) : Network :=
  let known (s : Sender) : List (Except TransportError Unit) :=
    (answers.filter (·.sender == s.name)).map (·.outcome)
  { net with
    targets := net.targets.map fun
      | .sender s => .sender { s with link.outcomes := ⟨known s, .ok ()⟩ }
      | t => t }

/-- How far a message has got. -/
inductive Progress where
  /-- A sender is to write a message. -/
  | write (sender : String) (payload : Bytes)
  /-- It is sent, or has failed. -/
  | ended (result : Except Failure Unit) (log : List LogRecord)

/-- How far the message gets with the answers to its first writes. -/
def next (s : Sending) (answers : List Answer) : Progress :=
  let (result, net) := (answer answers s.network).send s.target s.message
  let writes := net.effects.filterMap fun
    | .write sender payload _ => some (sender, payload)
    | _ => none
  match writes[answers.length]? with
  | some (sender, payload) => .write sender payload
  | none =>
    .ended (result.mapError fun e => .because s.complaint e.chain)
      (net.effects.filterMap (·.logRecord?))

end Sending

end Syslog.CommandLine
