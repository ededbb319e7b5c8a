import Syslog.Framing.Fragment
import Syslog.Transport.Counts
import Syslog.Transport.Dialer
import Syslog.Transport.Wire

/-!
# Transports that send datagrams

Each message is one datagram, or several over UDP if it is too long. A datagram is sent whole or not
at all; the first one that fails ends the message. There is no connection to give up and nothing to
close.
-/

namespace Syslog

/-- A transport that sends datagrams. -/
structure DatagramTransport where
  settings : TransportSettings
  target : String
  /-- Splits long messages; without it they are cut, or left as they are. -/
  fragmenter : Option Fragmenter := none
  counts : TransportCounts := {}

namespace DatagramTransport

/-- The markers of the settings. -/
def markers (s : TransportSettings) : Markers :=
  ⟨Text.Utf8.encode s.splitBegin, Text.Utf8.encode s.splitEnd⟩

/-- Over UDP, to an address that the machine finds. -/
def bind (machine : Machine) (s : TransportSettings) :
    Except TransportError DatagramTransport := do
  let target ← (machine.resolve s.address).mapError (TransportError.connectionFailed s.address)
  if s.truncateMessage then return { settings := s, target }
  let fragmenter ← Fragmenter.make (markers s) s.maxMessageLength
  return { settings := s, target, fragmenter }

/-- To a UNIX socket. -/
def toSocket (s : TransportSettings) : DatagramTransport := { settings := s, target := s.path }

/-- The datagrams of a message. -/
def datagrams (t : DatagramTransport) (payload : Bytes) : List Bytes :=
  match t.fragmenter with
  | some f => f.split payload
  | none => [t.settings.clip payload]

/-- Sends datagrams until one fails. -/
def sendAll (limit : Time.Duration) : List Bytes → Wire → Except TransportError Unit × Wire
  | [], w => (.ok (), w)
  | datagram :: rest, w =>
    let (outcome, w) := w.send datagram
    match outcome.result limit with
    | .ok () => sendAll limit rest w
    | .error e => (.error e, w)

/-- Writes a message. -/
def write (t : DatagramTransport) (payload : Bytes) (w : Wire) :
    Except TransportError Unit × DatagramTransport × Wire :=
  let parts := t.datagrams payload
  let counts := t.counts.noteFragments parts.length
  let (result, w) := sendAll t.settings.writeTimeout parts w
  match result with
  | .ok () => (result, { t with counts := counts.noteSent parts.flatten.length }, w)
  | .error _ => (result, { t with counts := counts.noteError }, w)

end DatagramTransport

end Syslog
