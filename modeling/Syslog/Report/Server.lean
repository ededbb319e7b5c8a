import Syslog.Fleet
import Syslog.Report.Error
import Syslog.Report.Message

/-!
# Reports of servers

Errors, counts and calls of servers as documents.
-/

namespace Syslog

open Document (entry)

/-- The word for the kind of an error. -/
def ServerError.kind : ServerError → String
  | .config e => "Config." ++ e.kind
  | .registry e => "Registry." ++ e.kind
  | .transport e => "Transport." ++ e.kind
  | .bind .. => "Bind"
  | .invalidState .. => "InvalidState"

instance : ToDocument ServerError where
  toDocument e :=
    match e with
    | .transport _ | .bind .. => .table [entry "error" e.kind]
    | _ => .failure e.kind e.message

instance : ToDocument ServerCounts where
  toDocument c := .table
    [entry "opened" c.opened, entry "active" c.active, entry "rejected" c.rejected,
      entry "frames" c.frames, entry "bytes" c.bytes, entry "oversized" c.oversized,
      entry "handler_errors" c.handlerErrors, entry "errors" c.errors]

/-- The word for the kind of a call. -/
def Call.kind : Call → String
  | started _ => "initialize"
  | opened _ => "opened"
  | event .. => "event"
  | closed _ => "closed"
  | stopped _ => "destroy"

/-- What a call is about. A peer without a name has none in the report. -/
def Call.fields : Call → List (String × Document)
  | started server | stopped server => [entry "server" server]
  | opened s | closed s => [entry "session" s.id]
  | event s e =>
    [entry "session" s.id, entry "server" s.server,
      entry "peer" (if s.peer.isEmpty then none else some s.peer), entry "event" e]

instance : ToDocument CallRecord where
  toDocument r := .table
    (entry "handler" r.handler :: entry "call" r.call.kind :: r.call.fields)

/-- A server in a fleet: its key, name, state and handlers. -/
def Fleet.summary (f : Fleet) : Document :=
  .list (f.servers.instances.entries.map fun (key, s) =>
    .list [toDocument key, toDocument s.name, toDocument s.state.name,
      toDocument s.handlers.names])

/-- A server that runs: its state, and whether it has an address. -/
def Server.started (s : Server) : Document :=
  .table [entry "state" s.state.name, entry "running" true, entry "bound" s.address.isSome]

/-- The messages that a handler has taken, with their sessions. -/
def CallRecord.messages (handler : String) (calls : List CallRecord) : List Document :=
  (taken handler calls).map fun (s, e) =>
    .table [entry "session" s.id, entry "message" e.message]

/-- The calls in the order of sessions, then of peers, those without a session last. -/
def CallRecord.bySession (calls : List CallRecord) : List CallRecord :=
  let before (a b : CallRecord) : Bool :=
    match a.call.session?, b.call.session? with
    | some s, some t => s.id < t.id || s.id == t.id && s.peer ≤ t.peer
    | some _, none => true
    | none, some _ => false
    | none, none => true
  calls.mergeSort before

end Syslog
