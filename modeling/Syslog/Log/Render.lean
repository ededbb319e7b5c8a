import Syslog.Log
import Syslog.Text.Hex
import Syslog.Time.Rfc3339

/-!
# Lines of the log

A record is one line, for people or as a JSON object. The field `message` stands first for people.
-/

namespace Syslog

namespace LogRecord

/-- One character of a JSON string. -/
def escapeChar (c : Char) : List Char :=
  match c with
  | '"' => ['\\', '"']
  | '\\' => ['\\', '\\']
  | '\n' => ['\\', 'n']
  | '\r' => ['\\', 'r']
  | '\t' => ['\\', 't']
  | c =>
    if c.toNat < 0x20 then
      ['\\', 'u', '0', '0', Text.Hex.digit (c.toNat / 16), Text.Hex.digit (c.toNat % 16)]
    else [c]

/-- A JSON string. -/
def jsonString (s : String) : String :=
  "\"" ++ String.ofList (s.toList.flatMap escapeChar) ++ "\""

/-- A JSON object, of members that are JSON. -/
def jsonObject (members : List (String × String)) : String :=
  "\x7b" ++ ",".intercalate (members.map fun (name, value) => jsonString name ++ ":" ++ value) ++
    "\x7d"

/-- A moment to the microsecond. -/
def moment (t : Time.DateTime) : String :=
  Time.renderSeconds t ++ "." ++ Text.Decimal.padded 6 (t.nanosecond / 1000) ++ "Z"

/-- The line for people. -/
def renderConsole (now : Time.DateTime) (part : String) (r : LogRecord) : String :=
  let (messages, others) := r.fields.partition (·.1 == "message")
  let level := String.ofList (Text.Decimal.padLeft 5 ' ' r.levelWord.toList)
  moment now ++ " " ++ level ++ " " ++ part ++ ": " ++
    " ".intercalate (messages.map (·.2) ++ others.map fun (name, value) => name ++ "=" ++ value)

/-- The line as a JSON object. -/
def renderJson (now : Time.DateTime) (part : String) (r : LogRecord) : String :=
  jsonObject
    [("timestamp", jsonString (moment now)), ("level", jsonString r.levelWord),
      ("fields", jsonObject (r.fields.map fun (name, value) => (name, jsonString value))),
      ("target", jsonString part)]

/-- The line in a format; `part` is the part of the program that the record is of. -/
def render (format : LogFormat) (now : Time.DateTime) (part : String) (r : LogRecord) : String :=
  match format with
  | .console => r.renderConsole now part
  | .json => r.renderJson now part

end LogRecord

end Syslog
