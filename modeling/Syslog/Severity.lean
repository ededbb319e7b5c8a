import Syslog.Text.Blank
import Syslog.Text.Case
import Syslog.Text.Decimal

/-!
# Severities

How urgent a message is: eight degrees, 0 the most urgent. Some degrees have more than one name.
-/

namespace Syslog

/-- How urgent a message is. -/
inductive Severity where
  | emergency
  | alert
  | critical
  | error
  | warning
  | notice
  | info
  | debug
  deriving DecidableEq, Repr

namespace Severity

instance : Inhabited Severity := ⟨info⟩

/-- All severities, the most urgent first. -/
def all : List Severity := [emergency, alert, critical, error, warning, notice, info, debug]

/-- The number of a severity. -/
def code (s : Severity) : Nat := s.ctorIdx

/-- The severity with a number. -/
def ofCode? (n : Nat) : Option Severity := all[n]?

/-- The name of a severity. -/
def name : Severity → String
  | emergency => "emerg"
  | alert => "alert"
  | critical => "crit"
  | error => "err"
  | warning => "warning"
  | notice => "notice"
  | info => "info"
  | debug => "debug"

/-- The severity of a name in lower case. -/
def ofName? : String → Option Severity
  | "emerg" | "emergency" | "panic" => some emergency
  | "alert" => some alert
  | "crit" | "critical" => some critical
  | "err" | "error" => some error
  | "warning" | "warn" => some warning
  | "notice" => some notice
  | "info" | "informational" => some info
  | "debug" => some debug
  | _ => none

/-- The severity that a text names, by number up to 255 or by name. -/
def ofText? (s : String) : Option Severity :=
  let word := Text.lowerAscii (Text.trim s)
  match Text.Decimal.read? 255 word.toList with
  | some n => ofCode? n
  | none => ofName? word

theorem ofCode?_code (s : Severity) : ofCode? s.code = some s := by
  cases s <;> rfl

theorem code_lt (s : Severity) : s.code < 8 := by
  cases s <;> decide

end Severity

end Syslog
