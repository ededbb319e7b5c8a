import Syslog.Framing.Delimited
import Syslog.Transport.Counts
import Syslog.Transport.Dialer
import Syslog.Transport.Wire

/-!
# Transports over one connection

The connection is opened when it is first needed. A write that fails gives it up, for what is on it
is no longer whole messages; the next write opens another one.
-/

namespace Syslog

namespace TransportSettings

/-- How messages are cut apart in a stream. -/
def framing (s : TransportSettings) : Framing :=
  .make (Text.Utf8.encode s.delimiter) s.maxMessageLength

/-- A message as it stands in a stream. -/
def frame (s : TransportSettings) (payload : Bytes) : Bytes := s.framing.frame (s.clip payload)

end TransportSettings

/-- A transport over one connection. -/
structure StreamTransport where
  dialer : Dialer
  connection : Option Nat := none
  closed : Bool := false
  counts : TransportCounts := {}

namespace StreamTransport

/-- The connection, opened if there is none. A transport that is closed can still be connected, but
will not write. -/
def connect (t : StreamTransport) (w : Wire) :
    Except TransportError Nat × StreamTransport × Wire :=
  match t.connection with
  | some c => (.ok c, t, w)
  | none =>
    match w.dial with
    | (.ok c, w) => (.ok c, { t with connection := some c, counts := t.counts.noteConnect }, w)
    | (.error e, w) => (.error e, t, w)

/-- Writes a message. -/
def write (t : StreamTransport) (payload : Bytes) (w : Wire) :
    Except TransportError Unit × StreamTransport × Wire :=
  if t.closed then (.error .closed, t, w)
  else
    match t.connect w with
    | (.error e, t, w) => (.error e, t, w)
    | (.ok c, t, w) =>
      let frame := t.dialer.settings.frame payload
      let (outcome, w) := w.write c frame
      match outcome.result t.dialer.settings.writeTimeout with
      | .ok () => (.ok (), { t with counts := t.counts.noteSent frame.length }, w)
      | .error e => (.error e, { t with connection := none, counts := t.counts.noteError }, w)

/-- Gives the connection up. -/
def reset (t : StreamTransport) : StreamTransport := { t with connection := none }

/-- Gives the connection up, and writes no more. -/
def close (t : StreamTransport) : StreamTransport := { t with connection := none, closed := true }

end StreamTransport

end Syslog
