import Syslog.Document.Decode

/-!
# Settings of backlog handlers

What becomes of messages that a sender cannot deliver: they are logged, dropped, or handed to
another target.
-/

namespace Syslog

/-- The settings of a backlog handler. -/
inductive BacklogSettings where
  | tracing
  | null
  | delegate (target : String) (appendReason : Bool)
  deriving DecidableEq, Repr, Inhabited

namespace BacklogSettings

/-- The name of the kind. -/
def kind : BacklogSettings → String
  | tracing => "tracing"
  | null => "null"
  | delegate .. => "delegate"

open Decode

/-- What has been read of the settings of a delegate. -/
structure DelegateParts where
  target : Option String := none
  appendReason : Bool := false

/-- Reads the settings of a delegate. -/
def decodeDelegate : Decoder BacklogSettings := fun d => do
  let expected := "struct variant BacklogConfig::Delegate"
  let parts : DelegateParts ← fields expected
    [.of "target" text fun x s => { s with target := some x },
      .of "append_reason" boolean fun x s => { s with appendReason := x }] {} d
  let target ← required d (expected ++ " with 2 elements") "target" parts.target
  return delegate target parts.appendReason

/-- Reads the settings of a handler. -/
def decoder : Decoder BacklogSettings :=
  tagged "internally tagged enum BacklogConfig"
    [("tracing", noFields tracing), ("null", noFields null), ("delegate", decodeDelegate)]

instance : FromDocument BacklogSettings := ⟨decoder⟩

end BacklogSettings

end Syslog
