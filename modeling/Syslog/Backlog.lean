import Syslog.Backlog.Settings
import Syslog.Delivery.Effect
import Syslog.Script
import Syslog.Text.Blank
import Syslog.Text.Quoted

/-!
# Backlogs

A backlog is a list of handlers that are told when a sender goes down and when it is up again, and
that are given the messages it could not deliver.

* `isDown`, `markDown` and `markUp?` keep the set of the senders that are down; a sender that was
  not down does not come up;
* `tellDown` and `tellUp` are what the handlers are told, one effect for each that listens;
* `Handler.receive` is what one handler does with a message: it answers, or asks for the message to
  be sent on to another target.
-/

namespace Syslog

/-! ## 1. Handlers -/

/-- A handler of messages that could not be delivered. -/
inductive Handler where
  /-- Writes to the log of the program. -/
  | tracing
  /-- Drops the message. -/
  | null
  /-- Sends the message on to a target. -/
  | delegate (target : String) (appendReason : Bool)
  /-- A handler outside the program, and its answers. -/
  | custom (name : String) (answers : Script (Except DeliveryError Unit))

namespace Handler

/-- The handler of the settings. -/
def ofSettings : BacklogSettings → Handler
  | .tracing => tracing
  | .null => null
  | .delegate target appendReason => delegate target appendReason

/-- The name of the handler. -/
def name : Handler → String
  | tracing => "tracing"
  | null => "null"
  | delegate .. => "delegate"
  | custom name _ => name

/-- Whom the handler tells what it learns. -/
def observer? : Handler → Option Observer
  | tracing => some .log
  | custom name _ => some (.named name)
  | null | delegate .. => none

/-- What a handler does with a message. -/
inductive Response where
  /-- It is done with it, or has failed. -/
  | done (result : Except DeliveryError Unit) (after : Handler)
  /-- It sends a message on to a target. -/
  | resend (target : String) (message : Message)

/-- The message that a delegate sends on. -/
def forwarded (appendReason : Bool) (m : Message) (reason : String) : Message :=
  if appendReason then { m with body := m.body ++ " [" ++ reason ++ "]" } else m

/-- What a handler does with a message that `sender` could not deliver, and whether anyone outside
is given it. A delegate refuses when the message has passed its target before. -/
def receive (h : Handler) (sender : String) (m : Message) (reason : String) (route : Route) :
    Response × List Effect :=
  match h with
  | tracing => (.done (.ok ()) h, [.undelivered .log sender m reason route])
  | null => (.done (.ok ()) h, [])
  | delegate target appendReason =>
    let name := Text.trim target
    if Text.equalIgnoringAsciiCase name sender || route.contains name then
      (.done (.error (.config (.selfDelegation name))) h, [])
    else (.resend target (forwarded appendReason m reason), [])
  | custom name answers =>
    let (answer, answers) := answers.next
    (.done answer (custom name answers), [.undelivered (.named name) sender m reason route])

end Handler

/-! ## 2. Backlogs -/

/-- Handlers in order, and the senders that are down. -/
structure Backlog where
  handlers : List Handler := [.tracing]
  down : List String := []

namespace Backlog

/-- The backlog of the settings; without any, what is not delivered goes to the log. -/
def ofSettings : List BacklogSettings → Backlog
  | [] => {}
  | settings => { handlers := settings.map Handler.ofSettings }

/-- The names of the handlers. -/
def names (b : Backlog) : List String := b.handlers.map (·.name)

/-- The number of handlers. -/
def length (b : Backlog) : Nat := b.handlers.length

/-- The error for a position where there is no handler. -/
def outOfRange (b : Backlog) (index : Nat) : DeliveryError :=
  .config (.indexOutOfRange "backlog handler" index b.length)

/-- The backlog with a handler at its end. -/
def push (b : Backlog) (h : Handler) : Backlog := { b with handlers := b.handlers ++ [h] }

/-- The backlog with a handler at a position. -/
def insert (b : Backlog) (index : Nat) (h : Handler) : Except DeliveryError Backlog :=
  if index > b.length then .error (b.outOfRange index)
  else .ok { b with handlers := b.handlers.insertIdx index h }

/-- The handler at a position, and the backlog without it. -/
def remove (b : Backlog) (index : Nat) : Except DeliveryError (Handler × Backlog) :=
  match b.handlers[index]? with
  | some h => .ok (h, { b with handlers := b.handlers.eraseIdx index })
  | none => .error (b.outOfRange index)

/-- The backlog without handlers. -/
def clear (b : Backlog) : Backlog := { b with handlers := [] }

/-- The backlog in words. -/
def describe (b : Backlog) : String :=
  "BacklogChain \x7b handlers: " ++ Text.Quoted.list b.names ++ " \x7d"

/-! ### Down and up -/

/-- Is the sender down? -/
def isDown (b : Backlog) (sender : String) : Bool := b.down.contains sender

/-- The backlog with the sender down. -/
def markDown (b : Backlog) (sender : String) : Backlog :=
  if b.isDown sender then b else { b with down := b.down ++ [sender] }

/-- The backlog with the sender up, if it was down. -/
def markUp? (b : Backlog) (sender : String) : Option Backlog :=
  if b.isDown sender then some { b with down := b.down.filter (· != sender) } else none

/-- What the handlers are told when a sender goes down. -/
def tellDown (b : Backlog) (sender cause : String) : List Effect :=
  (b.handlers.filterMap (·.observer?)).map fun o => .down o sender cause

/-- What the handlers are told when a sender is up again. -/
def tellUp (b : Backlog) (sender : String) : List Effect :=
  (b.handlers.filterMap (·.observer?)).map fun o => .up o sender

/-- A sender goes down: every handler is told, also if it was down before. -/
def noteDown (b : Backlog) (sender cause : String) : Backlog × List Effect :=
  (b.markDown sender, b.tellDown sender cause)

/-- A sender has delivered: the handlers are told if it was down. -/
def noteUp (b : Backlog) (sender : String) : Backlog × List Effect :=
  match b.markUp? sender with
  | some b' => (b', b.tellUp sender)
  | none => (b, [])

end Backlog

end Syslog
