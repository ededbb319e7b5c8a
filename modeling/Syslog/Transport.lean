import Syslog.Transport.Datagram
import Syslog.Transport.Pooled

/-!
# Transports

A transport puts rendered messages on the wire, in one of three ways: in datagrams, over one
connection, or over connections of a pool.

| kind | way |
|------|-----|
| UDP, UNIX with datagrams | datagrams |
| TCP and TLS without a pool, UNIX with a stream | one connection |
| TCP and TLS with a pool | connections of the pool |
-/

namespace Syslog

/-- Puts messages on the wire. -/
inductive Transport where
  | datagram (transport : DatagramTransport)
  | stream (transport : StreamTransport)
  | pooled (transport : PooledTransport)

namespace Transport

/-- Opens the transport of the settings. Nothing is connected yet. -/
def establish (machine : Machine) (name : String) (s : TransportSettings)
    (pool : Option PoolSettings) : Except (Breakdown TransportError) Transport := do
  if s.isStream then
    let dialer ← Breakdown.report (Dialer.make machine s)
    match pool with
    | some pool =>
      if s.kind.isConnectionOriented then
        return pooled (← Breakdown.ofOption (PooledTransport.make? name dialer pool))
      else return stream { dialer }
    | none => return stream { dialer }
  else if s.kind == .unix then return datagram (.toSocket s)
  else return datagram (← Breakdown.report (DatagramTransport.bind machine s))

/-- The settings of a transport. -/
def settings : Transport → TransportSettings
  | datagram t => t.settings
  | stream t => t.dialer.settings
  | pooled t => t.settings

/-- The peer in words. -/
def target : Transport → String
  | datagram t => t.target
  | stream t => t.dialer.target
  | pooled t => t.settings.target

/-- Writes a message. -/
def write (t : Transport) (payload : Bytes) (now : Time.Duration) (w : Wire) :
    Except TransportError Unit × Transport × Wire :=
  match t with
  | datagram t =>
    let (result, t, w) := t.write payload w
    (result, datagram t, w)
  | stream t =>
    let (result, t, w) := t.write payload w
    (result, stream t, w)
  | pooled t =>
    let (result, t, w) := t.write payload now w
    (result, pooled t, w)

/-- Gives connections up, so that the next write opens one. -/
def reset : Transport → Transport
  | datagram t => datagram t
  | stream t => stream t.reset
  | pooled t => pooled t.reset

/-- Closes the transport. -/
def close : Transport → Transport
  | datagram t => datagram t
  | stream t => stream t.close
  | pooled t => pooled t.close

/-- What the transport has counted. -/
def counts : Transport → TransportCounts
  | datagram t => t.counts
  | stream t => t.counts
  | pooled t => t.report

end Transport

end Syslog
