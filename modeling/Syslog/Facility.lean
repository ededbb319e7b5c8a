import Syslog.Text.Blank
import Syslog.Text.Case
import Syslog.Text.Decimal

/-!
# Facilities

The part of a system that a message comes from: twenty-four kinds, numbered from 0. A facility is
read from its name, in any case and with blanks around it, or from its number.
-/

namespace Syslog

/-- Where a message comes from. -/
inductive Facility where
  | kern
  | user
  | mail
  | daemon
  | auth
  | syslog
  | lpr
  | news
  | uucp
  | cron
  | authpriv
  | ftp
  | ntp
  | audit
  | alert
  | clock
  | local0
  | local1
  | local2
  | local3
  | local4
  | local5
  | local6
  | local7
  deriving DecidableEq, Repr

namespace Facility

instance : Inhabited Facility := ⟨user⟩

/-- All facilities, in the order of their numbers. -/
def all : List Facility :=
  [kern, user, mail, daemon, auth, syslog, lpr, news, uucp, cron, authpriv, ftp, ntp, audit, alert,
    clock, local0, local1, local2, local3, local4, local5, local6, local7]

/-- The number of a facility. -/
def code (f : Facility) : Nat := f.ctorIdx

/-- The facility with a number. -/
def ofCode? (n : Nat) : Option Facility := all[n]?

/-- The name of a facility. -/
def name : Facility → String
  | kern => "kern"
  | user => "user"
  | mail => "mail"
  | daemon => "daemon"
  | auth => "auth"
  | syslog => "syslog"
  | lpr => "lpr"
  | news => "news"
  | uucp => "uucp"
  | cron => "cron"
  | authpriv => "authpriv"
  | ftp => "ftp"
  | ntp => "ntp"
  | audit => "audit"
  | alert => "alert"
  | clock => "clock"
  | local0 => "local0"
  | local1 => "local1"
  | local2 => "local2"
  | local3 => "local3"
  | local4 => "local4"
  | local5 => "local5"
  | local6 => "local6"
  | local7 => "local7"

/-- The facility that a text names, by number up to 255 or by name. -/
def ofText? (s : String) : Option Facility :=
  let word := Text.lowerAscii (Text.trim s)
  match Text.Decimal.read? 255 word.toList with
  | some n => ofCode? n
  | none => all.find? (·.name == word)

theorem ofCode?_code (f : Facility) : ofCode? f.code = some f := by
  cases f <;> rfl

theorem code_lt (f : Facility) : f.code < 24 := by
  cases f <;> decide

end Facility

end Syslog
