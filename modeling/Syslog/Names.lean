import Syslog.Charset
import Syslog.Facility
import Syslog.Severity

/-!
# Names in settings and messages

Facilities, severities and charsets are given by text. A text that names none is an error, which
keeps the text as it was written.
-/

namespace Syslog

/-- A text that names no facility, no severity or no charset. -/
inductive NameError where
  | invalidFacility (text : String)
  | invalidSeverity (text : String)
  | unsupportedCharset (text : String)
  deriving DecidableEq, Repr

/-- The error in words. -/
def NameError.message : NameError → String
  | .invalidFacility s => "invalid facility: " ++ s
  | .invalidSeverity s => "invalid severity: " ++ s
  | .unsupportedCharset s => "unsupported charset: " ++ s

/-- The facility that a text names. -/
def Facility.read (s : String) : Except NameError Facility :=
  (Facility.ofText? s).elim (.error (.invalidFacility s)) .ok

/-- The severity that a text names. -/
def Severity.read (s : String) : Except NameError Severity :=
  (Severity.ofText? s).elim (.error (.invalidSeverity s)) .ok

/-- The charset that a text names. -/
def Charset.read (s : String) : Except NameError Charset :=
  (Charset.ofText? s).elim (.error (.unsupportedCharset s)) .ok

end Syslog
