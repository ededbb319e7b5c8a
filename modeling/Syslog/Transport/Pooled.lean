import Syslog.Pool
import Syslog.Transport.Stream

/-!
# Transports over a pool

Each message goes over a connection that is borrowed for it. A connection over which a write failed
is closed instead of coming back, for what is on it is no longer whole messages.
-/

namespace Syslog

/-- A transport that borrows its connections. -/
structure PooledTransport where
  settings : TransportSettings
  pool : Pool
  counts : TransportCounts := {}

namespace PooledTransport

/-- Makes a transport over a pool of its own, if there can be such a pool. -/
def make? (name : String) (dialer : Dialer) (pool : PoolSettings) : Option PooledTransport :=
  (Pool.make? name pool).map fun pool => { settings := dialer.settings, pool }

/-- Writes a message. -/
def write (t : PooledTransport) (payload : Bytes) (now : Time.Duration) (w : Wire) :
    Except TransportError Unit × PooledTransport × Wire :=
  if t.pool.closed then (.error .closed, t, w)
  else
    match t.pool.acquire w.isAlive Wire.dial w with
    | (.error e, pool, w) => (.error e, { t with pool }, w)
    | (.ok c, pool, w) =>
      let frame := t.settings.frame payload
      let (outcome, w) := w.write c frame
      match outcome.result t.settings.writeTimeout with
      | .ok () =>
        let pool := pool.release w.isAlive now c
        (.ok (), { t with pool, counts := t.counts.noteSent frame.length }, w)
      | .error e =>
        (.error e, { t with pool := pool.invalidate c, counts := t.counts.noteError }, w)

/-- Closes the idle connections. -/
def reset (t : PooledTransport) : PooledTransport := { t with pool := t.pool.clearIdle.2 }

/-- Closes the pool. -/
def close (t : PooledTransport) : PooledTransport := { t with pool := t.pool.close }

/-- What was counted; the pool counts the connections. -/
def report (t : PooledTransport) : TransportCounts :=
  { t.counts with connects := t.pool.counts.created }

end PooledTransport

end Syslog
