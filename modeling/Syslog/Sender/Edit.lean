import Syslog.Multi.Settings
import Syslog.Sender.Settings

/-!
# Changing settings one at a time

The settings of a sender can be changed before it is built. A sender to a UNIX socket has neither
host nor port, and positions in its lists must exist. A multi has none of these settings.
-/

namespace Syslog

/-- One change of a setting. -/
inductive Edit where
  | host (value : String)
  | port (value : Nat)
  | facility (value : Facility)
  | ident (value : String)
  | charset (value : Charset)
  | localName (value : String)
  | throwOnWriteFailure (value : Bool)
  | addModifier (value : ModifierSettings)
  | insertModifier (index : Nat) (value : ModifierSettings)
  | removeModifier (index : Nat)
  | clearModifiers
  | addBacklog (value : BacklogSettings)
  | insertBacklog (index : Nat) (value : BacklogSettings)
  | removeBacklog (index : Nat)
  | clearBacklog
  deriving DecidableEq

/-- The name of the setting that is changed. -/
def Edit.setting : Edit → String
  | host _ => "host"
  | port _ => "port"
  | facility _ => "facility"
  | ident _ => "ident"
  | charset _ => "charset"
  | localName _ => "local_name"
  | throwOnWriteFailure _ => "throw_on_write_failure"
  | addModifier _ | insertModifier .. | removeModifier _ | clearModifiers => "modifiers"
  | addBacklog _ | insertBacklog .. | removeBacklog _ | clearBacklog => "backlog"

namespace Edit

variable {α : Type}

/-- The list of `what` with an item at a position. -/
def insertAt (what : String) (index : Nat) (item : α) (items : List α) :
    Except ConfigError (List α) :=
  if index > items.length then .error (.indexOutOfRange what index items.length)
  else .ok (items.insertIdx index item)

/-- The list of `what` without the item at a position. -/
def removeAt (what : String) (index : Nat) (items : List α) : Except ConfigError (List α) :=
  if index ≥ items.length then .error (.indexOutOfRange what index items.length)
  else .ok (items.eraseIdx index)

end Edit

namespace SenderSettings

/-- The settings with a change of the address, which a UNIX socket does not have. -/
def editAddress (s : SenderSettings) (e : Edit) (t : TransportSettings) :
    Except ConfigError SenderSettings :=
  if s.transport.kind == .unix then .error (.notSettable e.setting "unix sender")
  else .ok { s with transport := t }

/-- The settings with a change. -/
def edit (s : SenderSettings) (e : Edit) : Except ConfigError SenderSettings :=
  match e with
  | .host value => s.editAddress e { s.transport with host := value }
  | .port value => s.editAddress e { s.transport with port := value }
  | .facility value => .ok { s with facility := value }
  | .ident value => .ok { s with ident := some value }
  | .charset value => .ok { s with transport.charset := value }
  | .localName value => .ok { s with localName := some value }
  | .throwOnWriteFailure value => .ok { s with throwOnWriteFailure := value }
  | .addModifier value => .ok { s with modifiers := s.modifiers ++ [value] }
  | .insertModifier index value =>
    return { s with modifiers := ← Edit.insertAt "modifier" index value s.modifiers }
  | .removeModifier index =>
    return { s with modifiers := ← Edit.removeAt "modifier" index s.modifiers }
  | .clearModifiers => .ok { s with modifiers := [] }
  | .addBacklog value => .ok { s with backlog := s.backlog ++ [value] }
  | .insertBacklog index value =>
    return { s with backlog := ← Edit.insertAt "backlog handler" index value s.backlog }
  | .removeBacklog index =>
    return { s with backlog := ← Edit.removeAt "backlog handler" index s.backlog }
  | .clearBacklog => .ok { s with backlog := [] }

end SenderSettings

/-- A multi refuses every change. -/
def MultiSettings.edit (_ : MultiSettings) (e : Edit) : Except ConfigError MultiSettings :=
  .error (.notSettable e.setting "multi")

end Syslog
