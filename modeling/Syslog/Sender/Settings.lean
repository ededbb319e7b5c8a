import Syslog.Backlog.Settings
import Syslog.Message.Render
import Syslog.Modifier.Settings
import Syslog.Pool.Settings
import Syslog.Transport.Settings

/-!
# Settings of a sender

A sender has a transport, a stamp for its messages, modifiers, and handlers for messages that it
cannot deliver. In a document the settings of the transport stand among those of the sender; they
are set aside, and read after them.
-/

namespace Syslog

/-- How a sender works. -/
structure SenderSettings where
  transport : TransportSettings := {}
  facility : Facility := .user
  ident : Option String := none
  localName : Option String := none
  sendLocalName : Bool := true
  sendLocalTimestamp : Bool := true
  format : MessageFormat := .bsd
  throwOnWriteFailure : Bool := true
  maxShutdownWait : Time.Duration := .ofSeconds 5
  pool : Option PoolSettings := none
  modifiers : List ModifierSettings := []
  backlog : List BacklogSettings := []
  deriving DecidableEq, Inhabited

namespace SenderSettings

/-! ## 1. Reading -/

open Decode

/-- The parts that are the sender's own. -/
def parts : List (FieldDecoder SenderSettings) :=
  [.of "facility" (parsed Facility.read NameError.message) fun x s => { s with facility := x },
    .of "ident" (optional text) fun x s => { s with ident := x },
    .of "local_name" (optional text) fun x s => { s with localName := x },
    .of "send_local_name" boolean fun x s => { s with sendLocalName := x },
    .of "send_local_timestamp" boolean fun x s => { s with sendLocalTimestamp := x },
    .of "format" (name [("bsd", .bsd), ("rfc5424", .rfc5424)]) fun x s => { s with format := x },
    .of "throw_on_write_failure" boolean fun x s => { s with throwOnWriteFailure := x },
    .of "max_shutdown_wait" duration fun x s => { s with maxShutdownWait := x },
    .of "pool" (optional PoolSettings.decoder) fun x s => { s with pool := x },
    .of "modifiers" (listOf ModifierSettings.decoder) fun x s => { s with modifiers := x },
    .of "backlog" (listOf BacklogSettings.decoder) fun x s => { s with backlog := x }]

/-- Reads the settings over the given ones. -/
def decodeOver (start : SenderSettings) : Decoder SenderSettings
  | .table members => do
    let s ← putMembers parts members start
    let transport ← (putMembers TransportSettings.parts members s.transport).aside
    return { s with transport }
  | .dateTime _ => pure start
  | d => throw (.wrongKind d "struct SenderConfig")

/-- Reads the settings. -/
def decoder : Decoder SenderSettings := decodeOver {}

instance : FromDocument SenderSettings := ⟨decoder⟩

/-! ## 2. What they must satisfy -/

/-- The peer has an address or a path. -/
def checkPeer (s : SenderSettings) (owner : String) : Except ConfigError Unit :=
  if s.transport.kind == .unix then
    if s.transport.path.isEmpty then .error (.missingField "sender" owner "path") else .ok ()
  else if (Text.trim s.transport.host).isEmpty then .error (.missingField "sender" owner "host")
  else .ok ()

/-- A message that is split leaves room between its markers. -/
def checkLength (s : SenderSettings) (owner : String) : Except ConfigError Unit :=
  let overhead := s.transport.splitBegin.utf8ByteSize + s.transport.splitEnd.utf8ByteSize
  if s.transport.kind == .udp && !s.transport.truncateMessage &&
      s.transport.maxMessageLength ≤ overhead then
    .error (.invalidValue "sender" owner "max_message_length"
      (toString s.transport.maxMessageLength ++
        " leaves no room for payload between split markers (" ++ toString overhead ++ " bytes)"))
  else .ok ()

/-- A connection separates its messages. -/
def checkDelimiter (s : SenderSettings) (owner : String) : Except ConfigError Unit :=
  if s.transport.kind.isConnectionOriented && s.transport.delimiter.isEmpty then
    .error (.invalidValue "sender" owner "delimiter"
      "stream transports need a non-empty delimiter")
  else .ok ()

/-- What the settings of the sender `owner` must satisfy; the first fault in this order is told. -/
def check (s : SenderSettings) (owner : String) : Except ConfigError Unit := do
  s.checkPeer owner
  s.checkLength owner
  s.checkDelimiter owner
  match s.pool with
  | some pool => pool.check owner
  | none => .ok ()
  s.modifiers.forM (·.check owner)

end SenderSettings

end Syslog
