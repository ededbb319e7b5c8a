import Syslog.Machine
import Syslog.Text.HostName
import Syslog.Text.Quoted
import Syslog.Transport.Error
import Syslog.Transport.Settings

/-!
# Dialers

A dialer opens connections to one peer. It exists for the kinds of transport that have connections,
and for TLS only if the certificates can be read and the peer has a name that a certificate can be
issued to.
-/

namespace Syslog

namespace TransportSettings

/-- The peer in words: a path or an address. -/
def target (s : TransportSettings) : String :=
  match s.kind with
  | .unix => s.path
  | _ => s.address

/-- The part of a message that goes into one frame. -/
def clip (s : TransportSettings) (payload : Bytes) : Bytes :=
  if s.truncateMessage then payload.take s.maxMessageLength else payload

/-- Does the transport run over connections? -/
def isStream (s : TransportSettings) : Bool :=
  match s.kind with
  | .tcp | .tls => true
  | .udp => false
  | .unix => s.socketType == .stream

end TransportSettings

/-- The error for certificates that cannot be read. -/
def TransportError.certificates (path reason : String) : TransportError :=
  .tls ("failed to load certificates " ++ path ++ ": " ++ reason)

namespace TlsClient

/-- The name that the certificate of a peer must have. -/
def peerName (t : TlsClient) (host : String) : String := t.serverName.getD host

/-- The certificates can be read, and the peer has a name. -/
def check (t : TlsClient) (machine : Machine) (host : String) : Except TransportError Unit := do
  match t.caFile with
  | some path =>
    let _ ← (machine.certificates path).mapError (TransportError.certificates path)
  | none => .ok ()
  if Text.HostName.isServerName (t.peerName host) then .ok ()
  else
    .error (.tls ("invalid server name " ++ Text.Quoted.text (t.peerName host) ++
      ": invalid dns name"))

end TlsClient

/-- Opens connections to a peer. -/
structure Dialer where
  settings : TransportSettings
  deriving DecidableEq, Inhabited

namespace Dialer

/-- The dialer of the settings. -/
def make (machine : Machine) (s : TransportSettings) : Except TransportError Dialer := do
  if !s.isStream then
    .error (.invalid (s.kind.name ++ " with " ++ s.socketType.name ++ " is not a stream transport"))
  if s.kind == .tls then s.tls.check machine s.host
  return ⟨s⟩

/-- The peer in words. -/
def target (d : Dialer) : String := d.settings.target

/-- The dialer in words. -/
def describe (d : Dialer) : String :=
  "Dialer \x7b kind: " ++ d.settings.kind.word ++ ", target: " ++ Text.Quoted.text d.target ++
    " \x7d"

end Dialer

end Syslog
