import Syslog.Document.Decode

/-!
# Errors of a configuration

What can be wrong with settings, from a file that cannot be read to two instances of one name.
-/

namespace Syslog

/-- Why settings are refused. -/
inductive ConfigError where
  | unreadableFile (path reason : String)
  /-- The text is not of the format. -/
  | malformed
  | undecodable (fault : DecodeFault)
  | indexOutOfRange (what : String) (index length : Nat)
  | invalidValue (component name field reason : String)
  | missingField (component name field : String)
  | selfDelegation (name : String)
  | notSettable (setting inst : String)
  | invalidSocketType (text : String)
  | invalidSocketFamily (text : String)
  | duplicateInstance (name : String)

namespace ConfigError

/-- A name in single quotes. -/
def quoted (s : String) : String := "'" ++ s ++ "'"

/-- The error in words. -/
def message : ConfigError → String
  | unreadableFile path reason =>
    "failed to read config file " ++ quoted path ++ ": " ++ reason
  | malformed => "failed to parse config"
  | undecodable fault => "failed to parse config: " ++ fault.message
  | indexOutOfRange what i n =>
    what ++ " index " ++ toString i ++ " out of range (len " ++ toString n ++ ")"
  | invalidValue component name field reason =>
    component ++ " " ++ quoted name ++ " has invalid " ++ field ++ ": " ++ reason
  | missingField component name field =>
    component ++ " " ++ quoted name ++ " is missing required field " ++ quoted field
  | selfDelegation name => "backlog handler of " ++ quoted name ++ " delegates to itself"
  | notSettable setting inst => setting ++ " cannot be set on " ++ inst
  | invalidSocketType s =>
    "invalid socket type " ++ quoted s ++ " (expected SOCK_STREAM or SOCK_DGRAM)"
  | invalidSocketFamily s => "invalid socket family " ++ quoted s ++ " (expected AF_UNIX)"
  | duplicateInstance name => "instance " ++ quoted name ++ " is defined more than once"

end ConfigError

end Syslog
