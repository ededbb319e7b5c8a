import Syslog.Configuration.Error
import Syslog.Text.Case

/-!
# Settings of a multi

A multi sends each message to a list of targets, which it knows by name.
-/

namespace Syslog

/-- The targets of a multi, in the order in which they are sent to. -/
structure MultiSettings where
  protocols : List String := []
  deriving DecidableEq, Repr, Inhabited

namespace MultiSettings

/-- Reads the settings. -/
def decoder : Decoder MultiSettings :=
  Decode.fields "struct MultiConfig"
    [.of "protocols" (Decode.listOf Decode.text) fun x _ => ⟨x⟩] {}

instance : FromDocument MultiSettings := ⟨decoder⟩

/-- Adds a name at the end. -/
def add (s : MultiSettings) (name : String) : MultiSettings := ⟨s.protocols ++ [name]⟩

/-- Adds a name at a position. -/
def insert (s : MultiSettings) (index : Nat) (name : String) : Except ConfigError MultiSettings :=
  if index > s.protocols.length then
    .error (.indexOutOfRange "protocol" index s.protocols.length)
  else .ok ⟨s.protocols.insertIdx index name⟩

/-- Leaves out a name, wherever it stands and in whatever letters. -/
def remove (s : MultiSettings) (name : String) : MultiSettings :=
  ⟨s.protocols.filter fun p => !Text.equalIgnoringAsciiCase p name⟩

/-- Does the name stand in the list, in whatever letters? -/
def contains (s : MultiSettings) (name : String) : Bool :=
  s.protocols.any fun p => Text.equalIgnoringAsciiCase p name

end MultiSettings

end Syslog
