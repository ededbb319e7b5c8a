import Syslog.CommandLine.Failure
import Syslog.Configuration

/-!
# Loading a configuration from a file

A configuration that is named on the command line must be there, be read and be right.
-/

namespace Syslog.CommandLine

/-- The configuration in a file: of the file nothing is known if it is not there, and otherwise its
text, or why it cannot be read. -/
def load (path : String) (file : Option (Except String String)) : Except Failure Configuration := do
  match file with
  | none => .error (.because ("config file not found: " ++ path) [])
  | some contents =>
    let read : Except ConfigError Configuration := do
      Configuration.read (← contents.mapError (ConfigError.unreadableFile path))
    read.mapError fun e => .because ("failed to load " ++ path) e.chain

end Syslog.CommandLine
