import Syslog.Multi.Settings
import Syslog.Sender

/-!
# Networks

A network holds the targets that messages are sent to, and a registry of their names. A target is a
sender, a multi that sends on to other targets, or something outside the program. The network also
keeps, in order, what its targets have done outside.
-/

namespace Syslog

/-- What a message can be sent to. -/
inductive Target where
  | sender (sender : Sender)
  | multi (name : String) (settings : MultiSettings)
  /-- A target outside the program, and its answers. -/
  | external (name : String) (answers : Script (Except DeliveryError Unit))

namespace Target

/-- The name of the target. -/
def name : Target → String
  | sender s => s.name
  | multi name _ => name
  | external name _ => name

/-- The target after it is shut down. -/
def shutdown : Target → Target × List Effect
  | sender s =>
    let (s, told) := s.close
    (sender s, told)
  | multi name settings => (multi name settings, [])
  | external name answers => (external name answers, [.released name])

/-- The target in words. -/
def describe : Target → String
  | sender s => s.describe
  | multi name settings =>
    "MultiDispatcher \x7b name: " ++ Text.Quoted.text name ++ ", protocols: " ++
      Text.Quoted.list settings.protocols ++ " \x7d"
  | external name _ => name

end Target

/-- Targets, known by their positions, and the registry of their names. -/
structure Network where
  targets : List Target := []
  /-- The names; none once the registry has been given up. -/
  registry : Option (Registry Nat) := some {}
  /-- The time that messages are stamped with. -/
  now : Time.DateTime
  /-- What was done outside, in order. -/
  effects : List Effect := []

namespace Network

/-- The network after some effects. -/
def record (net : Network) (told : List Effect) : Network :=
  { net with effects := net.effects ++ told }

/-- The network with a target in the place of another. -/
def put (net : Network) (id : Nat) (t : Target) : Network :=
  { net with targets := net.targets.set id t }

/-- The network with one target more, and the position of it. -/
def add (net : Network) (t : Target) : Nat × Network :=
  (net.targets.length, { net with targets := net.targets ++ [t] })

/-- Adds a target under a name. -/
def register (net : Network) (name : String) (t : Target) : Except DeliveryError Network :=
  match net.registry with
  | none => .error (.closed name)
  | some registry =>
    let (id, net) := net.add t
    match registry.register name id with
    | .ok registry => .ok { net with registry := some registry }
    | .error e => .error (.registry e)

/-- Takes a name out of the registry, and tells the target that had it. -/
def unregister (net : Network) (name : String) : Option Target × Network :=
  ((net.registry.bind (·.get? name)).bind (net.targets[·]?),
    { net with registry := net.registry.map (·.remove name) })

/-- Multis do, or do not, keep the failures of their targets to themselves. -/
def suppress (net : Network) (suppressErrors : Bool) : Network :=
  { net with registry := net.registry.map fun r => { r with suppressErrors } }

/-- The target at a position is shut down. -/
def shutdown (net : Network) (id : Nat) : Network :=
  match net.targets[id]? with
  | some t =>
    let (t, told) := t.shutdown
    (net.put id t).record told
  | none => net

/-- Takes all names out of the registry, and shuts their targets down in the order of the names. -/
def shutdownAll (net : Network) : Network :=
  match net.registry with
  | none => net
  | some registry =>
    let (entries, registry) := registry.drain
    entries.foldl (fun net (_, id) => net.shutdown id) { net with registry := some registry }

end Network

end Syslog
