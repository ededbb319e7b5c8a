import Syslog.Delivery.Error
import Syslog.Server.Error

/-!
# Failures of the program

What the program says when it cannot do what it was asked: what has failed, and the chain of causes,
each the cause of the one before it.
-/

namespace Syslog

/-- The error and its cause, if it has one of its own. -/
def TransportError.chain (e : TransportError) : List String :=
  match e with
  | .connectionFailed _ reason | .writeFailed reason => [e.message, reason]
  | _ => [e.message]

/-- The error and the errors behind it. -/
def ConfigError.chain (e : ConfigError) : List String :=
  match e with
  | .unreadableFile _ reason => [e.message, reason]
  | _ => [e.message]

/-- The error and the errors behind it. -/
def DeliveryError.chain (e : DeliveryError) : List String :=
  match e with
  | .config e => e.chain
  | .transport e => e.chain
  | .exhausted _ _ cause => e.message :: cause.chain
  | _ => [e.message]

/-- The error and the errors behind it. -/
def ServerError.chain (e : ServerError) : List String :=
  match e with
  | .config e => e.chain
  | .transport e => e.chain
  | .bind _ reason => [e.message, reason]
  | _ => [e.message]

/-- What has failed, and why. -/
structure Failure where
  message : String
  causes : List String := []
  deriving DecidableEq, Repr, Inhabited

namespace Failure

/-- A failure because of errors. -/
def because (message : String) (causes : List String) : Failure := ⟨message, causes⟩

/-- The failure that an error is. -/
def ofChain (chain : List String) : Failure := ⟨chain.headD "", chain.tail⟩

/-- The log cannot be written to a file. -/
def unopenedLog (path reason : String) : Failure :=
  .because ("failed to open log file " ++ path) [reason]

/-- What is written about the failure. -/
def render (f : Failure) : String :=
  let causes := (f.causes.zipIdx).map fun (cause, i) =>
    "    " ++ (if f.causes.length > 1 then toString i ++ ": " else "") ++ cause ++ "\n"
  "Error: " ++ f.message ++ "\n" ++
    (if causes.isEmpty then "" else "\nCaused by:\n" ++ "".intercalate causes)

end Failure

end Syslog
