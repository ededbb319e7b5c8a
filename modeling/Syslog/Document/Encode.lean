import Syslog.Dict
import Syslog.Document
import Syslog.Text.Hex
import Syslog.Time.Duration

/-!
# Writing values into a document

What is reported of a value is a document: a setting under the name it is read from, a count, a
name. A value that is missing is `null`, bytes are hexadecimal digits, and a length of time is its
seconds and nanoseconds.
-/

namespace Syslog

/-- Values that are reported as documents. -/
class ToDocument (α : Type) where
  toDocument : α → Document

export ToDocument (toDocument)

namespace ToDocument

variable {α β : Type}

instance : ToDocument Document := ⟨id⟩
instance : ToDocument String := ⟨.text⟩
instance : ToDocument Bool := ⟨.boolean⟩
instance : ToDocument Nat := ⟨fun n => .integer n⟩
instance : ToDocument Int := ⟨.integer⟩

instance [ToDocument α] : ToDocument (Option α) :=
  ⟨fun | some a => toDocument a | none => .null⟩

instance [ToDocument α] : ToDocument (List α) := ⟨fun items => .list (items.map toDocument)⟩

instance [ToDocument α] [ToDocument β] : ToDocument (α × β) :=
  ⟨fun (a, b) => .list [toDocument a, toDocument b]⟩

instance : ToDocument Bytes := ⟨fun b => .text (Text.Hex.encode b)⟩

instance : ToDocument Time.Duration :=
  ⟨fun d => toDocument (d.wholeSeconds, d.subsecond)⟩

end ToDocument

namespace Document

/-- A member of a table. -/
def entry {α : Type} [ToDocument α] (name : String) (value : α) : String × Document :=
  (name, toDocument value)

/-- A table whose members are the entries of a dictionary. -/
def ofDict {α : Type} [ToDocument α] (d : Dict α) : Document :=
  .table (d.entries.map fun (key, value) => (key, toDocument value))

end Document

end Syslog
