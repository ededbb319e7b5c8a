import Syslog.Backlog
import Syslog.Framing.Delimited
import Syslog.Modifier.Chain
import Syslog.Report.Error
import Syslog.Report.Settings
import Syslog.Server.Admission
import Syslog.Server.Handler

/-!
# Reports of states

Registries, chains, lists of handlers, settings and permits in fields, as far as an observer can
tell their states apart.
-/

namespace Syslog

open Document (entry)

variable {α : Type}

/-- What is said of every list of named things. -/
def listFields (names : List String) : List (String × Document) :=
  [entry "names" names, entry "len" names.length, entry "empty" names.isEmpty]

/-- The state of a registry. -/
def Registry.fields (r : Registry α) : List (String × Document) :=
  entry "suppress" r.suppressErrors :: listFields r.names

/-- The state of a chain. -/
def Chain.fields (c : Chain) : List (String × Document) := listFields c.names

/-- The state of a backlog. -/
def Backlog.fields (b : Backlog) : List (String × Document) := listFields b.names

/-- The state of a list of handlers. -/
def HandlerList.fields (l : HandlerList) : List (String × Document) :=
  entry "debug" l.describe :: listFields l.names

/-- The bounds of a numbering. -/
def Numbering.fields (n : Numbering) : List (String × Document) :=
  [entry "first" n.first, entry "last" n.last]

/-- What edits can change in the settings of a sender, and whether the settings are right. -/
def SenderSettings.fields (s : SenderSettings) (name : String) : List (String × Document) :=
  [entry "address" s.transport.address, entry "facility" s.facility, entry "ident" s.ident,
    entry "charset" s.transport.charset, entry "local_name" s.localName,
    entry "throw" s.throwOnWriteFailure, entry "modifiers" (s.modifiers.map (·.kind)),
    entry "backlog" s.backlog, entry "valid" (s.check name)]

/-- The permits that are free. -/
def Admission.fields (a : Admission) : List (String × Document) :=
  [entry "available" a.available?]

instance : ToDocument Frame where
  toDocument
    | .line bytes => .table [entry "line" bytes]
    | .tooLong size => .table [entry "too_long" size]

end Syslog
