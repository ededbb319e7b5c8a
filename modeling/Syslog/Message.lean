import Syslog.Dict
import Syslog.Priority
import Syslog.Time.DateTime

/-!
# Messages

What a sender is asked to send. A message has a priority and a body; all else may be missing.
Structured data is a dictionary of elements, each a dictionary of parameters.
-/

namespace Syslog

/-- Named elements, each with named values. -/
abbrev StructuredData := Dict (Dict String)

/-- A message to be sent. -/
structure Message where
  facility : Facility := .user
  severity : Severity := .info
  timestamp : Option Time.DateTime := none
  host : Option String := none
  ident : Option String := none
  body : String := ""
  appName : Option String := none
  procId : Option String := none
  msgId : Option String := none
  structuredData : StructuredData := .empty
  deriving DecidableEq, Inhabited

namespace Message

/-- The facility and severity of a message. -/
def priority (m : Message) : Priority := ⟨m.facility, m.severity⟩

/-- The program that sends the message: its own name, else the ident. -/
def effectiveAppName (m : Message) : Option String := m.appName.orElse fun _ => m.ident

end Message

end Syslog
