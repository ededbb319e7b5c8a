import Syslog.Network
import Syslog.Report.Message

/-!
# Reports of deliveries

Routes, records of the log, effects and senders as documents.
-/

namespace Syslog

open Document (entry)

instance : ToDocument Route := ⟨fun r => .text r.render⟩

/-- The fields of a record of the log. -/
def LogRecord.report (r : LogRecord) : List (String × Document) :=
  [entry "trace" r.levelWord, entry "fields" r.fields]

/-- What an effect does, in fields: for the log, its record. The outcome of a write is not told. -/
def Effect.fields : Effect → List (String × Document)
  | write sender payload _ => [entry "write" sender, entry "data" payload]
  | reset sender => [entry "reset" sender]
  | close sender => [entry "close" sender]
  | down (.named h) sender cause => [entry "handler" h, entry "down" sender, entry "cause" cause]
  | up (.named h) sender => [entry "handler" h, entry "up" sender]
  | undelivered (.named h) sender m reason route =>
    [entry "handler" h, entry "log" sender, entry "body" m.body, entry "reason" reason,
      entry "route" route]
  | received target m route => [entry "stub" target, entry "body" m.body, entry "route" route]
  | released target => [entry "stub_shutdown" target]
  | told => (told.logRecord?.map LogRecord.report).getD []

instance : ToDocument Sender where
  toDocument s := .table
    [entry "down" s.isDown, entry "sent" s.counts.sent, entry "failed" s.counts.failed,
      entry "retries" s.counts.retries, entry "down_events" s.counts.downEvents,
      entry "transport_sent" s.link.sent, entry "transport_bytes" s.link.bytes,
      entry "transport_errors" s.link.errors, entry "chain" s.chain.names,
      entry "backlog" s.backlog.names, entry "local_name" s.settings.localName]

end Syslog
