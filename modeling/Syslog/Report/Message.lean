import Syslog.Charset
import Syslog.Document.Encode
import Syslog.Event
import Syslog.Time.Rfc3339

/-!
# Reports of messages and events

Messages and events as documents: the fields under the names of the wire, facility, severity and
charset by their names.
-/

namespace Syslog

open Document (entry)

instance : ToDocument Facility := ⟨fun f => .text f.name⟩
instance : ToDocument Severity := ⟨fun s => .text s.name⟩
instance : ToDocument Charset := ⟨fun c => .text c.name⟩
instance : ToDocument Time.DateTime := ⟨fun t => toDocument t.toUnix⟩
instance : ToDocument Time.OffsetTime := ⟨fun t => .text (Time.renderOffset t)⟩

instance : ToDocument Priority :=
  ⟨fun p => .table [entry "facility" p.facility, entry "severity" p.severity]⟩

instance : ToDocument StructuredData :=
  ⟨fun data => .table (data.entries.map fun (id, params) => (id, Document.ofDict params))⟩

instance : ToDocument Message where
  toDocument m := .table
    [entry "facility" m.facility, entry "severity" m.severity, entry "pri" m.priority.code,
      entry "timestamp" m.timestamp, entry "host" m.host, entry "ident" m.ident,
      entry "body" m.body, entry "app_name" m.appName, entry "proc_id" m.procId,
      entry "msg_id" m.msgId, entry "sd" m.structuredData]

/-- The fields of an event. -/
def Event.fields (e : Event) : List (String × Document) :=
  [entry "facility" e.facility, entry "severity" e.severity, entry "version" e.version,
    entry "timestamp" e.timestamp, entry "host" e.host, entry "app_name" e.appName,
    entry "proc_id" e.procId, entry "msg_id" e.msgId, entry "sd" e.structuredData,
    entry "message" e.message, entry "structured" e.structured]

instance : ToDocument Event := ⟨fun e => .table e.fields⟩

end Syslog
