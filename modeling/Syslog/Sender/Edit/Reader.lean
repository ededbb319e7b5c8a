import Syslog.Message.Reader
import Syslog.Sender.Edit

/-!
# Edits in documents

An edit is a table: the member `do` says what is changed, and further members give the value, and
the position in a list.
-/

namespace Syslog

namespace Edit

/-- The edits by name, each with how the rest of it is read. -/
def readers : List (String × Decoder Edit) :=
  [("set_host", fun d => return host (← d.read "value")),
    ("set_port", fun d => return port ((← d.read "value") % UInt16.size)),
    ("set_facility", fun d => return facility (← d.read "value")),
    ("set_ident", fun d => return ident (← d.read "value")),
    ("set_charset", fun d => return charset (← d.read "value")),
    ("set_local_name", fun d => return localName (← d.read "value")),
    ("set_throw", fun d => return throwOnWriteFailure (← d.readD "value" true)),
    ("add_modifier", fun d => return addModifier (← d.read "modifier")),
    ("insert_modifier",
      fun d => return insertModifier (← d.read "index") (← d.read "modifier")),
    ("remove_modifier", fun d => return removeModifier (← d.read "index")),
    ("clear_modifiers", fun _ => return clearModifiers),
    ("add_backlog", fun d => return addBacklog (← d.read "handler")),
    ("insert_backlog", fun d => return insertBacklog (← d.read "index") (← d.read "handler")),
    ("remove_backlog", fun d => return removeBacklog (← d.read "index")),
    ("clear_backlog", fun _ => return clearBacklog)]

instance : FromDocument Edit where
  decoder d := do
    let reader ← Decode.name readers (.text (← d.read "do"))
    reader d

end Edit

end Syslog
