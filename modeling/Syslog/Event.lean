import Syslog.Message

/-!
# Events

What a server makes of the bytes it receives. A structured event has the fields of a header; any
other event is the text as it came, with facility and severity if a priority leads it.
-/

namespace Syslog

/-- A received message. -/
structure Event where
  facility : Option Facility := none
  severity : Option Severity := none
  version : Option Nat := none
  timestamp : Option Time.OffsetTime := none
  host : Option String := none
  appName : Option String := none
  procId : Option String := none
  msgId : Option String := none
  structuredData : StructuredData := .empty
  message : String := ""
  structured : Bool := false
  deriving DecidableEq, Inhabited

namespace Event

/-- The event without structure. -/
def raw (message : String) : Event where
  message := message

/-- The event with the facility and severity of a priority, if there is one. -/
def withPriority (e : Event) (p : Option Priority) : Event :=
  { e with facility := p.map (·.facility), severity := p.map (·.severity) }

/-- The value of a parameter of an element. -/
def param? (e : Event) (id key : String) : Option String := do
  (← e.structuredData.get? id).get? key

end Event

end Syslog
