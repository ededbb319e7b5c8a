import Syslog.Message
import Syslog.Time.Rfc3339

/-!
# The written forms of a message

* `renderBsd`: priority, then date, host and ident if there are any, then the body;
* `renderRfc5424`: priority, version 1, five header fields with a hyphen for each that is missing or
  empty, structured data, and the body after a space if it is not empty.

In a parameter value the double quote, the backslash and the closing bracket stand behind a
backslash.
-/

namespace Syslog

/-- The two forms of the wire. -/
inductive MessageFormat where
  | bsd
  | rfc5424
  deriving DecidableEq, Repr, Inhabited

/-- The name of a form in settings. -/
def MessageFormat.name : MessageFormat → String
  | bsd => "bsd"
  | rfc5424 => "rfc5424"

namespace Message

open Text

/-- What stands for a missing field. -/
def nil : String := "-"

/-- The priority in angle brackets. -/
def renderPriority (m : Message) : String := "<" ++ Decimal.render m.priority.code ++ ">"

/-- A header that may be missing, with what follows it. -/
def optional (after : String) : Option String → String
  | some s => s ++ after
  | none => ""

/-- The older form. -/
def renderBsd (m : Message) : String :=
  m.renderPriority ++ optional " " (m.timestamp.map Time.renderShort) ++ optional " " m.host ++
    optional ": " m.ident ++ m.body

/-- A header field: a hyphen if it is missing or empty. -/
def orNil : Option String → String
  | some s => if s.isEmpty then nil else s
  | none => nil

/-- A parameter value with its escapes. -/
def escapeValue (s : String) : String :=
  String.ofList (s.toList.flatMap fun c =>
    if c == '"' || c == '\\' || c == ']' then ['\\', c] else [c])

/-- One element of structured data. -/
def renderElement (id : String) (params : Dict String) : String :=
  let written := params.entries.map fun p => " " ++ p.1 ++ "=\"" ++ escapeValue p.2 ++ "\""
  "[" ++ id ++ String.join written ++ "]"

/-- The structured data, a hyphen if there is none. -/
def renderStructuredData (data : StructuredData) : String :=
  if data.isEmpty then nil
  else String.join (data.entries.map fun e => renderElement e.1 e.2)

/-- The structured form. -/
def renderRfc5424 (m : Message) : String :=
  m.renderPriority ++ "1 " ++ ((m.timestamp.map Time.renderMillis).getD nil) ++ " " ++
    orNil m.host ++ " " ++ orNil m.effectiveAppName ++ " " ++ orNil m.procId ++ " " ++
    orNil m.msgId ++ " " ++ renderStructuredData m.structuredData ++
    (if m.body.isEmpty then "" else " " ++ m.body)

/-- The message in one of the forms. -/
def render (m : Message) : MessageFormat → String
  | .bsd => m.renderBsd
  | .rfc5424 => m.renderRfc5424

end Message

end Syslog
