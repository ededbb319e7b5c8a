import Syslog.Pool
import Syslog.Report.Error
import Syslog.Transport

/-!
# Reports of transports and pools

Counts and states of transports and pools as documents.
-/

namespace Syslog

open Document (entry)

/-- The counts in fields. -/
def TransportCounts.fields (c : TransportCounts) : List (String × Document) :=
  [entry "sent" c.sent, entry "bytes" c.bytes, entry "fragments" c.fragments,
    entry "errors" c.errors, entry "connects" c.connects]

/-- The state of a pool in fields. -/
def Pool.fields (p : Pool) : List (String × Document) :=
  [entry "idle" p.idle.length, entry "active" p.active?, entry "closed" p.closed,
    entry "created" p.counts.created, entry "destroyed" p.counts.destroyed,
    entry "borrowed" p.counts.borrowed, entry "returned" p.counts.returned,
    entry "exhausted" p.counts.exhausted]

instance : ToDocument Pool.EvictionReport where
  toDocument r := .table
    [entry "examined" r.examined, entry "evicted" r.evicted, entry "soft_evicted" r.softEvicted,
      entry "failed_probe" r.failedProbe, entry "closed" r.closed]

instance : ToDocument Dialer where
  toDocument d := .table
    [entry "target" d.target, entry "kind" d.settings.kind.name, entry "debug" d.describe]

/-- The connections of a transport: whether there is one, or what the pool has of them. -/
def Transport.connections : Transport → Document
  | datagram _ => .null
  | stream t => .table [entry "connected" t.connection.isSome]
  | pooled t => .table
    [entry "idle" t.pool.idle.length, entry "created" t.pool.counts.created,
      entry "destroyed" t.pool.counts.destroyed]

end Syslog
