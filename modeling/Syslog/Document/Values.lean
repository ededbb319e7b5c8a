import Syslog.Dict
import Syslog.Document.Decode
import Syslog.Text.Hex
import Syslog.Text.Utf8

/-!
# Plain values in documents

Texts, numbers, truth values, bytes, lists, pairs and dictionaries are read from documents as they
are written into them, and so are the members of a table. A member that is `null` counts as missing;
the shape of any other is taken by the letter.
-/

namespace Syslog

/-! ## 1. Values -/

namespace FromDocument

variable {α β : Type}

instance : FromDocument Document := ⟨pure⟩
instance : FromDocument String := ⟨Decode.text⟩
instance : FromDocument Bool := ⟨Decode.boolean⟩
instance : FromDocument Nat := ⟨Decode.natural64⟩

instance : FromDocument Int where
  decoder
    | .integer n => pure n
    | d => throw (.wrongKind d "i64")

instance [FromDocument α] : FromDocument (List α) := ⟨Decode.listOf decoder⟩

instance [FromDocument α] [FromDocument β] : FromDocument (α × β) where
  decoder
    | .list [a, b] _ => return (← decoder a, ← decoder b)
    | d => throw (.wrongKind d "a pair")

instance [FromDocument α] : FromDocument (Dict α) :=
  ⟨fun d => return .ofList (← Decode.namedValues decoder d)⟩

/-- Bytes are a text, or the member `hex` of a table with their digits. -/
instance : FromDocument Bytes where
  decoder
    | .text s => pure (Text.Utf8.encode s)
    | .table [("hex", .text s)] =>
      match Text.Hex.decode s with
      | .ok bytes => pure bytes
      | .error fault => throw (.refused fault.message)
    | d => throw (.wrongKind d "bytes")

end FromDocument

/-! ## 2. Members of a table -/

namespace Document

variable {α : Type} [FromDocument α]

/-- The member of a name. -/
def member? (d : Document) (name : String) : Option Document :=
  match d with
  | table members =>
    match members.lookup name with
    | some null | none => none
    | some member => some member
  | _ => none

/-- The value of a member that may be missing. -/
def read? (d : Document) (name : String) : Except DecodeFault (Option α) :=
  match d.member? name with
  | some member => some <$> (FromDocument.decoder member).run .strict
  | none => .ok none

/-- The value of a member, or one in its place if it is missing. -/
def readD (d : Document) (name : String) (default : α) : Except DecodeFault α :=
  return (← d.read? name).getD default

/-- The value of a member that must be there. -/
def read (d : Document) (name : String) : Except DecodeFault α := do
  match ← d.read? name with
  | some a => return a
  | none => .error (.missingField name)

end Document

end Syslog
