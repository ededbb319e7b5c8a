/-!
# The log of the program

How the program itself logs, and what a record of its log is: a level, and named fields in the order
in which they were given. A name may come twice.
-/

namespace Syslog

/-- How much the program logs. -/
inductive LogLevel where
  | trace
  | debug
  | info
  | warn
  | error
  deriving DecidableEq, Repr, Inhabited

/-- The name in settings. -/
def LogLevel.name : LogLevel → String
  | trace => "trace"
  | debug => "debug"
  | info => "info"
  | warn => "warn"
  | error => "error"

/-- All levels by name. -/
def LogLevel.named : List (String × LogLevel) :=
  [trace, debug, info, warn, error].map fun l => (l.name, l)

/-- How the program writes its log. -/
inductive LogFormat where
  | console
  | json
  deriving DecidableEq, Repr, Inhabited

/-- The name in settings. -/
def LogFormat.name : LogFormat → String
  | console => "console"
  | json => "json"

/-- Where the program writes its log. -/
inductive LogOutput where
  | stdout
  | stderr
  | file (path : String)
  deriving DecidableEq, Repr, Inhabited

/-- How the program logs. -/
structure LogSettings where
  level : LogLevel := .info
  format : LogFormat := .console
  output : LogOutput := .stdout
  deriving DecidableEq, Repr, Inhabited

/-- A record of the log. -/
structure LogRecord where
  level : LogLevel
  fields : List (String × String)
  deriving DecidableEq, Repr, Inhabited

/-- The level as it stands in a record. -/
def LogRecord.levelWord (r : LogRecord) : String :=
  match r.level with
  | .trace => "TRACE"
  | .debug => "DEBUG"
  | .info => "INFO"
  | .warn => "WARN"
  | .error => "ERROR"

end Syslog
