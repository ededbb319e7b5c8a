import Syslog.Json.Number
import Syslog.Text.Hex

/-!
# JSON

`Json.read?` makes a document of a text in the format JSON. A text that is not of that format, or
holds a number that is too great, gives none. The members of a table stand in the order of their
names, and of several with one name only the last one counts.
-/

namespace Syslog.Json

open Text

/-! ## 1. Blanks and strings -/

/-- What follows the blanks. -/
def skipBlanks (cs : List Char) : List Char :=
  cs.dropWhile fun c => c == ' ' || c == '\t' || c == '\n' || c == '\r'

/-- The character behind a backslash and one letter. -/
def escaped? : Char → Option Char
  | '"' => some '"'
  | '\\' => some '\\'
  | '/' => some '/'
  | 'b' => some '\x08'
  | 'f' => some '\x0c'
  | 'n' => some '\n'
  | 'r' => some '\r'
  | 't' => some '\t'
  | _ => none

/-- The unit of 16 bits that four hexadecimal digits write. -/
def unit? (digits : List Char) : Option Nat := do
  return (← digits.mapM Hex.charValue?).foldl (fun n d => n * 16 + d) 0

/-- The character of a pair of units of which the first is a high and the second a low half. -/
def paired? (high low : Nat) : Option Char :=
  if 0xd800 ≤ high && high < 0xdc00 && 0xdc00 ≤ low && low < 0xe000 then
    some (Char.ofNat (0x10000 + (high - 0xd800) * 0x400 + (low - 0xdc00)))
  else none

/-- A string, after its opening quote. -/
def string? : List Char → Option (List Char × List Char)
  | [] => none
  | '"' :: rest => some ([], rest)
  | '\\' :: 'u' :: a :: b :: c :: d :: rest => do
    let n ← unit? [a, b, c, d]
    if n.isValidChar then prepend (Char.ofNat n) (string? rest)
    else
      match rest with
      | '\\' :: 'u' :: e :: f :: g :: h :: rest => do
        prepend (← paired? n (← unit? [e, f, g, h])) (string? rest)
      | _ => none
  | '\\' :: c :: rest => do prepend (← escaped? c) (string? rest)
  | c :: rest => if ' ' ≤ c then prepend c (string? rest) else none
where
  prepend (c : Char) (read : Option (List Char × List Char)) : Option (List Char × List Char) :=
    read.map fun (cs, rest) => (c :: cs, rest)

/-- What follows a word. -/
def word? (word : String) (cs : List Char) : Option (List Char) :=
  if cs.take word.length == word.toList then some (cs.drop word.length) else none

/-! ## 2. Values -/

/-- Puts a member into its place among those in the order of names. -/
def insert (name : String) (d : Document) : List (String × Document) → List (String × Document)
  | [] => [(name, d)]
  | m :: rest =>
    if name < m.1 then (name, d) :: m :: rest
    else if name == m.1 then m :: rest
    else m :: insert name d rest

mutual

/-- A value. Every character takes at most two steps of `fuel`. -/
def value? : (fuel : Nat) → List Char → Option (Document × List Char)
  | 0, _ => none
  | fuel + 1, cs =>
    match skipBlanks cs with
    | '"' :: rest => (string? rest).map fun (s, rest) => (.text (String.ofList s), rest)
    | '[' :: rest =>
      match skipBlanks rest with
      | ']' :: rest => some (.list [], rest)
      | rest => (items? fuel rest).map fun (items, rest) => (.list items, rest)
    | '\x7b' :: rest =>
      match skipBlanks rest with
      | '\x7d' :: rest => some (.table [], rest)
      | rest => (members? fuel rest).map fun (members, rest) => (.table members, rest)
    | 't' :: rest => (word? "rue" rest).map fun rest => (.boolean true, rest)
    | 'f' :: rest => (word? "alse" rest).map fun rest => (.boolean false, rest)
    | 'n' :: rest => (word? "ull" rest).map fun rest => (.null, rest)
    | cs => number? cs

/-- The items of a list up to its closing bracket, at least one. -/
def items? : (fuel : Nat) → List Char → Option (List Document × List Char)
  | 0, _ => none
  | fuel + 1, cs => do
    let (item, rest) ← value? fuel cs
    match skipBlanks rest with
    | ']' :: rest => some ([item], rest)
    | ',' :: rest => (items? fuel rest).map fun (items, rest) => (item :: items, rest)
    | _ => none

/-- The members of a table up to its closing brace, at least one. -/
def members? : (fuel : Nat) → List Char → Option (List (String × Document) × List Char)
  | 0, _ => none
  | fuel + 1, cs => do
    match skipBlanks cs with
    | '"' :: rest =>
      let (name, rest) ← string? rest
      match skipBlanks rest with
      | ':' :: rest =>
        let (item, rest) ← value? fuel rest
        match skipBlanks rest with
        | '\x7d' :: rest => some ([(String.ofList name, item)], rest)
        | ',' :: rest =>
          let (members, rest) ← members? fuel rest
          some (insert (String.ofList name) item members, rest)
        | _ => none
      | _ => none
    | _ => none

end

/-- The document that a text writes. -/
def read? (text : String) : Option Document := do
  let cs := text.toList
  let (d, rest) ← value? (2 * cs.length + 2) cs
  if (skipBlanks rest).isEmpty then some d else none

end Syslog.Json
