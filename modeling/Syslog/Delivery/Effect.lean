import Syslog.Bytes
import Syslog.Delivery.Error
import Syslog.Log
import Syslog.Message.Render
import Syslog.Route

/-!
# What a delivery does

A delivery is a function; what it does to the world outside is told in effects, in the order in
which they happen.
-/

namespace Syslog

/-- Who is told about the fate of messages: the log of the program, or an observer of a name. -/
inductive Observer where
  | log
  | named (name : String)
  deriving DecidableEq, Repr

/-- Something that happens outside. -/
inductive Effect where
  /-- A sender tries to write a message to its peer. -/
  | write (sender : String) (payload : Bytes) (outcome : Except TransportError Unit)
  /-- A sender gives its connection up, to open a new one. -/
  | reset (sender : String)
  /-- A sender closes its transport. -/
  | close (sender : String)
  /-- An observer learns that a sender cannot deliver. -/
  | down (observer : Observer) (sender cause : String)
  /-- An observer learns that a sender delivers again. -/
  | up (observer : Observer) (sender : String)
  /-- An observer is given a message that a sender could not deliver. -/
  | undelivered (observer : Observer) (sender : String) (message : Message) (reason : String)
    (route : Route)
  /-- A target outside the program is given a message. -/
  | received (target : String) (message : Message) (route : Route)
  /-- A target outside the program is shut down. -/
  | released (target : String)

/-- What the log of the program records of an effect. -/
def Effect.logRecord? : Effect → Option LogRecord
  | down .log sender cause =>
    some ⟨.warn, [("message", "sender down"), ("sender", sender), ("cause", cause)]⟩
  | up .log sender => some ⟨.info, [("message", "sender up"), ("sender", sender)]⟩
  | undelivered .log sender m reason _ =>
    some ⟨.warn,
      [("message", "undelivered syslog message"), ("sender", sender), ("reason", reason),
        ("severity", m.severity.name), ("message", m.renderBsd)]⟩
  | _ => none

end Syslog
