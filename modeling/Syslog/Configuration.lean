import Syslog.Dict
import Syslog.Log
import Syslog.Multi.Settings
import Syslog.Sender.Settings
import Syslog.Server.Settings
import Syslog.Toml

/-!
# Configurations

A configuration names senders, servers and multis, and says how the program itself logs. It is read
from a text in TOML: first the text as a whole, then the values in the order of the text, then the
checks, of senders before servers before names, each in the order of names.
-/

namespace Syslog

/-- All settings. -/
structure Configuration where
  log : LogSettings := {}
  suppressErrors : Bool := false
  senders : Dict SenderSettings := .empty
  servers : Dict ServerSettings := .empty
  multis : Dict MultiSettings := .empty
  deriving Inhabited

/-! ## 1. Reading -/

open Decode

/-- Reads where the log goes: a name of a stream, or else of a file. -/
def LogOutput.decoder : Decoder LogOutput
  | .text "stdout" => pure stdout
  | .text "stderr" => pure stderr
  | .text path => pure (file path)
  | d => throw (.wrongKind d "a string")

/-- Reads how the program logs. -/
def LogSettings.decoder : Decoder LogSettings :=
  fields "struct LogConfig"
    [.of "level" (name LogLevel.named) fun x s => { s with level := x },
      .of "format" (name [("console", .console), ("json", .json)])
        fun x s => { s with format := x },
      .of "output" LogOutput.decoder fun x s => { s with output := x }] {}

namespace Configuration

/-- Reads a configuration. -/
def decoder : Decoder Configuration :=
  fields "struct Config"
    [.of "log" LogSettings.decoder fun x s => { s with log := x },
      .of "suppress_errors" boolean fun x s => { s with suppressErrors := x },
      .of "senders" (namedValues SenderSettings.decoder) fun x s => { s with senders := .ofList x },
      .of "servers" (namedValues ServerSettings.decoder) fun x s => { s with servers := .ofList x },
      .of "multi" (namedValues MultiSettings.decoder) fun x s => { s with multis := .ofList x }] {}

/-! ## 2. What it must satisfy -/

/-- No multi has the name of a sender, in whatever letters. -/
def checkNames (c : Configuration) : Except ConfigError Unit :=
  c.multis.keys.forM fun name =>
    if c.senders.keys.any fun sender => Text.equalIgnoringAsciiCase sender name then
      .error (.duplicateInstance name)
    else .ok ()

/-- What a configuration must satisfy. -/
def check (c : Configuration) : Except ConfigError Unit := do
  c.senders.entries.forM fun (name, s) => s.check name
  c.servers.entries.forM fun (name, s) => s.check name
  c.checkNames

/-- The configuration that a text in TOML writes. -/
def read (text : String) : Except ConfigError Configuration := do
  let d ← (Toml.read? text).elim (.error .malformed) .ok
  let c ← ((decoder d).run .lenient).mapError .undecodable
  c.check
  return c

/-- The names to which messages can be sent, of senders and multis, in rising order. -/
def clientNames (c : Configuration) : List String :=
  (c.senders.keys ++ c.multis.keys).mergeSort (fun a b => decide (a ≤ b))

end Configuration

end Syslog
