import Syslog.Delivery.Error
import Syslog.Document.Encode
import Syslog.Names

/-!
# Reports of errors

An error as a document: a word for its kind, and its message. The kind of an error that wraps
another one names both. What the system says of connections, writes and certificates is not part of
a report, for it differs from system to system.
-/

namespace Syslog

open Document (entry)

/-- The report of an error. -/
def Document.failure (kind message : String) (more : List (String × Document) := []) : Document :=
  .table (entry "error" kind :: entry "message" message :: more)

/-! ## 1. Kinds -/

/-- The word for the kind of an error. -/
def NameError.kind : NameError → String
  | .invalidFacility _ => "InvalidFacility"
  | .invalidSeverity _ => "InvalidSeverity"
  | .unsupportedCharset _ => "UnsupportedCharset"

/-- The word for the kind of an error. -/
def RegistryError.kind : RegistryError → String
  | .emptyName => "EmptyName"
  | .duplicate _ => "Duplicate"
  | .unknown _ => "Unknown"

/-- The word for the kind of an error. -/
def ModifierError.kind : ModifierError → String
  | .indexOutOfRange .. => "IndexOutOfRange"
  | .invalid _ => "Config"

/-- The word for the kind of an error. -/
def ConfigError.kind : ConfigError → String
  | .unreadableFile .. => "IoError"
  | .malformed | .undecodable _ => "ParseError"
  | .indexOutOfRange .. => "IndexOutOfRange"
  | .invalidValue .. => "InvalidValue"
  | .missingField .. => "MissingField"
  | .selfDelegation _ => "SelfDelegation"
  | .notSettable .. => "NotSettable"
  | .invalidSocketType _ => "InvalidSocketType"
  | .invalidSocketFamily _ => "InvalidSocketFamily"
  | .duplicateInstance _ => "DuplicateInstance"

/-- The word for the kind of an error. -/
def TransportError.kind : TransportError → String
  | .connectionFailed .. => "ConnectionFailed"
  | .writeFailed _ => "WriteFailed"
  | .timeout _ => "Timeout"
  | .tls _ => "Tls"
  | .poolExhausted _ => "PoolExhausted"
  | .poolClosed => "PoolClosed"
  | .closed => "Closed"
  | .invalid _ => "Config"

/-- The word for the kind of an error. -/
def DeliveryError.kind : DeliveryError → String
  | .config e => "Config." ++ e.kind
  | .registry e => "Registry." ++ e.kind
  | .modifier e => "Transform." ++ e.kind
  | .transport e => "Transport." ++ e.kind
  | .exhausted _ _ cause => "Delivery." ++ cause.kind
  | .multi .. => "Multi"
  | .closed _ => "Closed"

/-! ## 2. Reports -/

instance : ToDocument NameError := ⟨fun e => .failure e.kind e.message⟩
instance : ToDocument RegistryError := ⟨fun e => .failure e.kind e.message⟩
instance : ToDocument ModifierError := ⟨fun e => .failure e.kind e.message⟩
instance : ToDocument ConfigError := ⟨fun e => .failure e.kind e.message⟩

/-- The report of an error of a configuration that is read from a text. The wording of faults in the
text itself is left to the reader. -/
def ConfigError.loadReport : ConfigError → Document
  | .malformed => .table [entry "error" "ParseError.Syntax"]
  | .undecodable fault =>
    if fault.isShape then .table [entry "error" "ParseError.Type"]
    else .failure "ParseError.Value" fault.message
  | e => toDocument e

instance : ToDocument TransportError where
  toDocument e :=
    let shared : List (String × Document) :=
      [entry "error" e.kind, entry "connection_error" e.isConnectionError]
    match e with
    | .connectionFailed .. | .writeFailed _ | .tls _ => .table shared
    | _ => .table (shared ++ [entry "message" e.message])

instance : ToDocument DeliveryError where
  toDocument e := .failure e.kind e.message
    [entry "is_config" e.isConfig, entry "is_self_delegation" e.isSelfDelegation]

/-! ## 3. Results -/

instance : ToDocument Unit := ⟨fun _ => .text "ok"⟩

instance {ε α : Type} [ToDocument ε] [ToDocument α] : ToDocument (Except ε α) :=
  ⟨fun | .ok a => toDocument a | .error e => toDocument e⟩

end Syslog
