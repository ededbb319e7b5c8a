import Syslog.Bytes
import Syslog.Script
import Syslog.Transport.Error

/-!
# The wire

What happens between transports and their peers. The surroundings answer each attempt to connect and
each write, by scripts; the wire keeps what was put on it. Connections are numbered in the order in
which they are opened, from 0.

A write to a connection can end in the middle of what was to be written; the wire then holds the
part that was put on it.
-/

namespace Syslog

/-- How a write ends. -/
inductive WriteOutcome where
  | complete
  /-- It fails after so many bytes. -/
  | failed (put : Nat) (reason : String)
  /-- The time for it is over after so many bytes. -/
  | late (put : Nat)
  deriving DecidableEq, Repr, Inhabited

namespace WriteOutcome

/-- The part of the bytes that is put on the wire. -/
def put (o : WriteOutcome) (bytes : Bytes) : Bytes :=
  match o with
  | complete => bytes
  | failed n _ | late n => bytes.take n

/-- What the writer learns, who has waited for the given time at most. -/
def result (o : WriteOutcome) (limit : Time.Duration) : Except TransportError Unit :=
  match o with
  | complete => .ok ()
  | failed _ reason => .error (.writeFailed reason)
  | late _ => .error (.timeout limit)

end WriteOutcome

/-- What is on the wire, and what the surroundings will answer. -/
structure Wire where
  dials : Script (Except TransportError Unit) := .always (.ok ())
  writes : Script WriteOutcome := .always .complete
  /-- The bytes on every connection. -/
  streams : List Bytes := []
  /-- The datagrams in the order in which they were sent. -/
  datagrams : List Bytes := []
  /-- The connections whose peer has gone away. -/
  gone : List Nat := []
  deriving Inhabited

namespace Wire

/-- Opens a connection. -/
def dial (w : Wire) : Except TransportError Nat × Wire :=
  let (outcome, dials) := w.dials.next
  match outcome with
  | .ok () => (.ok w.streams.length, { w with dials, streams := w.streams ++ [[]] })
  | .error e => (.error e, { w with dials })

/-- Writes bytes to a connection. -/
def write (w : Wire) (connection : Nat) (bytes : Bytes) : WriteOutcome × Wire :=
  let (outcome, writes) := w.writes.next
  (outcome, { w with writes, streams := w.streams.modify connection (· ++ outcome.put bytes) })

/-- Sends a datagram, whole or not at all. -/
def send (w : Wire) (datagram : Bytes) : WriteOutcome × Wire :=
  let (outcome, writes) := w.writes.next
  match outcome with
  | .complete => (outcome, { w with writes, datagrams := w.datagrams ++ [datagram] })
  | _ => (outcome, { w with writes })

/-- Is the peer of a connection still there? -/
def isAlive (w : Wire) (connection : Nat) : Bool := !w.gone.contains connection

/-- The wire after the peer of a connection has gone away. -/
def leave (w : Wire) (connection : Nat) : Wire := { w with gone := w.gone ++ [connection] }

end Wire

end Syslog
