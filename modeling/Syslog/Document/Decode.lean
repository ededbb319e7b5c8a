import Syslog.Document
import Syslog.Names
import Syslog.Text.Decimal
import Syslog.Text.Quoted
import Syslog.Time.Duration

/-!
# Reading values from a document

A `Decoder` makes a value of a part of a document, or tells what is wrong with it.

* texts, numbers, truth values, characters, durations, and names out of a list;
* `optional`, `listOf` and `dictOf` for what may be missing, be repeated or be named;
* `fields` for a structure: its parts are named, each has a default, and they are read in the order
  in which the document has them, so the first fault of the document is the one that is told. Parts
  without a known name are passed over. A list stands for a table whose parts are not named but come
  in the order of the structure.

How strictly the shape of a part is taken depends on how the part was reached: its `Manner`.
-/

namespace Syslog

/-- What is wrong with a part of a document. -/
inductive DecodeFault where
  /-- Another kind of value is expected. -/
  | wrongKind (found : Document) (expected : String)
  /-- Another value of the kind is expected. -/
  | wrongValue (found : Document) (expected : String)
  | wrongLength (length : Nat) (expected : String)
  | unknownName (name : String) (known : List String)
  | missingField (name : String)
  /-- A name stands for nothing. -/
  | badName (error : NameError)
  /-- The value is refused for a reason of its own. -/
  | refused (reason : String)

/-- How strictly the shape of a part is taken. -/
inductive Manner where
  /-- The part stands in a document that is taken by the letter. -/
  | strict
  /-- The part stands in a text that people write. -/
  | lenient
  /-- The part was set aside before it was known what it is, and is read from there. -/
  | aside
  deriving DecidableEq, Repr, Inhabited

/-- The making of a value. -/
abbrev Decoding (α : Type) := ReaderT Manner (Except DecodeFault) α

/-- Makes a value of a part of a document. -/
abbrev Decoder (α : Type) := Document → Decoding α

/-- Values that are read from documents in one way. -/
class FromDocument (α : Type) where
  decoder : Decoder α

/-- Reads what was set aside. -/
def Decoding.aside {α : Type} (read : Decoding α) : Decoding α := withReader (fun _ => .aside) read

namespace Document

/-- The part in words. -/
def describe : Document → String
  | null => "null"
  | boolean b => "boolean `" ++ (if b then "true" else "false") ++ "`"
  | integer n => "integer `" ++ toString n ++ "`"
  | decimal s => "floating point `" ++ s ++ "`"
  | text s => "string " ++ Text.Quoted.text s
  | dateTime _ | table _ => "map"
  | list .. => "sequence"

/-- The word for the kind of the part. -/
def kindWord : Document → String
  | null => "none"
  | boolean _ => "boolean"
  | integer _ => "integer"
  | decimal _ => "float"
  | text _ => "string"
  | dateTime _ => "datetime"
  | table _ => "table"
  | list .. => "array"

/-- The name under which a date stands where it is taken for a table. -/
def dateMember : String := "$__toml_private_datetime"

end Document

namespace DecodeFault

/-- The names that are expected. -/
def renderNames : List String → String
  | [a] => "`" ++ a ++ "`"
  | [a, b] => "`" ++ a ++ "` or `" ++ b ++ "`"
  | names => "one of " ++ String.intercalate ", " (names.map fun n => "`" ++ n ++ "`")

/-- The fault in words. -/
def message : DecodeFault → String
  | wrongKind found expected => "invalid type: " ++ found.describe ++ ", expected " ++ expected
  | wrongValue found expected => "invalid value: " ++ found.describe ++ ", expected " ++ expected
  | wrongLength n expected => "invalid length " ++ toString n ++ ", expected " ++ expected
  | unknownName name known =>
    "unknown variant `" ++ name ++ "`, expected " ++ renderNames known
  | missingField name => "missing field `" ++ name ++ "`"
  | badName error => error.message
  | refused reason => reason

/-- Does the fault lie in the shape of one part? Then its words depend on the place. -/
def isShape : DecodeFault → Bool
  | wrongKind .. | wrongValue .. => true
  | _ => false

end DecodeFault

namespace Decode

variable {α β : Type}

/-! ## 1. Single values -/

/-- A text. -/
def text : Decoder String
  | .text s => pure s
  | d => throw (.wrongKind d "a string")

/-- The name of a file. -/
def path : Decoder String
  | .text s => pure s
  | d => throw (.wrongKind d "path string")

/-- A truth value. -/
def boolean : Decoder Bool
  | .boolean b => pure b
  | d => throw (.wrongKind d "a boolean")

/-- A number from 0 up to what `bits` bits can hold. -/
def natural (bits : Nat) (expected : String) : Decoder Nat
  | .integer n =>
    if 0 ≤ n && n.toNat < Nat.pow 2 bits then pure n.toNat else throw (.wrongValue (.integer n) expected)
  | d => throw (.wrongKind d expected)

/-- A number of 16 bits. -/
def natural16 : Decoder Nat := natural 16 "u16"

/-- A number of 32 bits. -/
def natural32 : Decoder Nat := natural 32 "u32"

/-- A number of 64 bits. -/
def natural64 : Decoder Nat := natural 64 "u64"

/-- A number or size of things, of 64 bits. -/
def size : Decoder Nat := natural 64 "usize"

/-- A text of one character. -/
def char : Decoder Char
  | .text s =>
    match s.toList with
    | [c] => pure c
    | _ => throw (.wrongValue (.text s) "a character")
  | d => throw (.wrongKind d "a character")

/-- A length of time, written as text. -/
def duration : Decoder Time.Duration
  | .text s =>
    match Time.Duration.read? s with
    | some d => pure d
    | none => throw (.wrongValue (.text s) "a duration")
  | d => throw (.wrongKind d "a duration")

/-- What one of some names stands for. -/
def named (known : List (String × α)) (s : String) : Decoding α :=
  match known.lookup s with
  | some a => pure a
  | none => throw (.unknownName s (known.map (·.1)))

/-- Takes a part that says nothing, as it must behind a name that says all. -/
def nothing (d : Document) : Decoding Unit := do
  match ← read, d with
  | .strict, .null | .lenient, .table [] | .lenient, .list [] _ | .aside, .null
  | .aside, .table [] => return
  | .lenient, .list _ true => throw (.refused "expected empty array")
  | .lenient, .table _ | .lenient, .list _ false => throw (.refused "expected empty table")
  | .lenient, d => throw (.refused ("expected table, found " ++ d.kindWord))
  | _, d => throw (.wrongKind d "unit")

/-- One of some names. It may also stand as the only member of a table, with nothing in it. -/
def name (known : List (String × α)) : Decoder α
  | .text s => named known s
  | .table [(s, inner)] => do
    let a ← named known s
    nothing inner
    return a
  | .table members => throw (.wrongValue (.table members) "map with a single key")
  | .dateTime s => do
    if (← read) == .aside then named known Document.dateMember
    else throw (.wrongKind (.dateTime s) "string or map")
  | d => throw (.wrongKind d "string or map")

/-- A text that is read further; `word` is what its error says. -/
def parsed {ε : Type} (read : String → Except ε α) (word : ε → String) : Decoder α := fun d => do
  match read (← text d) with
  | .ok a => return a
  | .error e => throw (.refused (word e))

/-! ## 2. Several values -/

/-- A value that may be missing. -/
def optional (decode : Decoder α) : Decoder (Option α)
  | .null => pure none
  | d => some <$> decode d

/-- A list of values. -/
def listOf (decode : Decoder α) : Decoder (List α)
  | .list items _ => items.mapM decode
  | d => throw (.wrongKind d "a sequence")

/-- Values by name. -/
def namedValues (decode : Decoder α) : Decoder (List (String × α))
  | .table members => members.mapM fun m => return (m.1, ← decode m.2)
  | .dateTime s => return [(Document.dateMember, ← decode (.text s))]
  | d => throw (.wrongKind d "a map")

/-- Refuses a list of `length` items of which only the first `taken` were read. A text that people
write may have more items than are read. -/
def checkSurplus (length taken : Nat) : Decoding Unit := do
  if length ≤ taken then return
  match ← read with
  | .strict => throw (.wrongLength length "fewer elements in array")
  | .lenient => return
  | .aside =>
    throw (.wrongLength length
      (if taken == 1 then "1 element in sequence" else toString taken ++ " elements in sequence"))

/-- A part of a structure: its name, and how it is put into the structure. -/
structure FieldDecoder (α : Type) where
  name : String
  put : Document → α → Decoding α

/-- The part that a decoder reads. -/
def FieldDecoder.of (name : String) (decode : Decoder β) (put : β → α → α) : FieldDecoder α where
  name := name
  put := fun d a => return put (← decode d) a

/-- Puts the members of a table into a structure. -/
def putMembers (parts : List (FieldDecoder α)) (members : List (String × Document)) (start : α) :
    Decoding α :=
  members.foldlM
    (fun a m =>
      match parts.find? (·.name == m.1) with
      | some part => part.put m.2 a
      | none => pure a)
    start

/-- A structure, from the one that all defaults give. -/
def fields (expected : String) (parts : List (FieldDecoder α)) (start : α) : Decoder α
  | .table members => putMembers parts members start
  | .list items _ => do
    let a ← (parts.zip items).foldlM (fun a (part, d) => part.put d a) start
    checkSurplus items.length parts.length
    return a
  | .dateTime _ => pure start
  | d => throw (.wrongKind d expected)

/-- A part without a default, of a structure that was read from `d`. -/
def required (d : Document) (expected name : String) : Option α → Decoding α
  | some a => pure a
  | none =>
    match d with
    | .list items _ => throw (.wrongLength items.length expected)
    | _ => throw (.missingField name)

/-- A structure without parts. What else a table has is passed over. -/
def noFields (a : α) : Decoder α
  | .list items _ => do
    checkSurplus items.length 0
    return a
  | _ => pure a

/-- The name of a kind of value. -/
def kindName (kinds : List (String × α)) : Decoder α
  | .text s => named kinds s
  | d => throw (.wrongKind d "variant identifier")

/-- One of several kinds of value, told by the member `type`: the name of the kind is read first,
whatever its place, and then the other members, which were set aside. In a list the name of the kind
comes first. -/
def tagged (expected : String) (kinds : List (String × Decoder α)) : Decoder α
  | .table members =>
    match members.lookup "type" with
    | some d => do
      let decode ← kindName kinds d
      (decode (.table (members.filter (·.1 != "type")))).aside
    | none => throw (.missingField "type")
  | .list (d :: items) _ => do
    let decode ← kindName kinds d
    (decode (.list items)).aside
  | .list [] _ | .dateTime _ => throw (.missingField "type")
  | d => throw (.wrongKind d expected)

end Decode

end Syslog
