import Syslog.Toml.Scalar
import Syslog.Toml.Tree

/-!
# TOML

`Toml.read?` makes a document of a text in the format TOML 1.0. A text that is not of that format,
that binds a key twice or holds a whole number beyond 64 bits, gives none. The members of each table
keep their order.
-/

namespace Syslog.Toml

/-! ## 1. Values -/

mutual

/-- A value. `depth` levels of lists and tables may be nested in it; every character takes at most
two steps of `fuel`. -/
def value? : (fuel depth : Nat) → List Char → Option (Document × List Char)
  | 0, _, _ => none
  | fuel + 1, depth, cs =>
    match cs, depth with
    | '"' :: _, _ | '\'' :: _, _ => (string? cs).map fun (s, rest) => (.text s, rest)
    | '[' :: rest, depth + 1 =>
      (items? fuel depth rest).map fun (items, rest) => (.list items, rest)
    | '\x7b' :: rest, depth + 1 =>
      match skipSpaces rest with
      | '\x7d' :: rest => some (.table [], rest)
      | rest =>
        (members? fuel depth [] rest).map fun (members, rest) =>
          (.table (Tree.documents members), rest)
    | _, _ => scalar? cs

/-- The items of a list up to its closing bracket. A comma may follow the last one. -/
def items? : (fuel depth : Nat) → List Char → Option (List Document × List Char)
  | 0, _, _ => none
  | fuel + 1, depth, cs =>
    match skipFill false cs with
    | ']' :: rest => some ([], rest)
    | cs => do
      let (item, rest) ← value? fuel depth cs
      match skipFill false rest with
      | ']' :: rest => some ([item], rest)
      | ',' :: rest => (items? fuel depth rest).map fun (items, rest) => (item :: items, rest)
      | _ => none

/-- The members of a table in braces up to its closing brace, added to those before. -/
def members? : (fuel depth : Nat) → Members → List Char → Option (Members × List Char)
  | 0, _, _, _ => none
  | fuel + 1, depth, before, cs => do
    let ((path, key), rest) ← key? cs
    match rest with
    | '=' :: rest =>
      let (item, rest) ← value? fuel depth (skipSpaces rest)
      let members ← before.assign path key item
      match skipSpaces rest with
      | '\x7d' :: rest => some (members, rest)
      | ',' :: rest => members? fuel depth members rest
      | _ => none
    | _ => none

end

/-! ## 2. Lines -/

/-- The table of the last header, and all tables. -/
structure State where
  path : List String := []
  members : Members := []

namespace State

/-- Adds a value to the table of the last header. -/
def assign (s : State) (path : List String) (key : String) (d : Document) : Option State := do
  let members ← s.members.change false (fun _ inner => inner.assign path key d) s.path .header
  some { s with members }

/-- Begins a table. -/
def openTable (s : State) (path : List String) (key : String) : Option State := do
  some ⟨path ++ [key], ← s.members.openTable path key⟩

/-- Begins another table of a list. -/
def openRow (s : State) (path : List String) (key : String) : Option State := do
  some ⟨path ++ [key], ← s.members.openRow path key⟩

end State

/-- One line, and what follows it: a header, a value under a key, or nothing. -/
def line? (s : State) (cs : List Char) : Option (State × List Char) :=
  match skipSpaces cs with
  | '[' :: '[' :: rest => do
    let ((path, key), rest) ← key? rest
    match rest with
    | ']' :: ']' :: rest => some (← s.openRow path key, ← endLine? rest)
    | _ => none
  | '[' :: rest => do
    let ((path, key), rest) ← key? rest
    match rest with
    | ']' :: rest => some (← s.openTable path key, ← endLine? rest)
    | _ => none
  | cs =>
    match endLine? cs with
    | some rest => some (s, rest)
    | none => do
      let ((path, key), rest) ← key? cs
      match rest with
      | '=' :: rest =>
        let (item, rest) ← value? (2 * rest.length + 2) (maxDepth - 1) (skipSpaces rest)
        some (← s.assign path key item, ← endLine? rest)
      | _ => none

/-- All lines, of which each takes a step of `fuel`. -/
def lines? : (fuel : Nat) → State → List Char → Option State
  | 0, _, _ => none
  | fuel + 1, s, cs => do
    let (s, rest) ← line? s cs
    if rest.isEmpty then some s else lines? fuel s rest

/-- The text without a byte order mark in front. -/
def dropMark : List Char → List Char
  | '\ufeff' :: rest => rest
  | cs => cs

/-- The document that a text writes. -/
def read? (text : String) : Option Document := do
  let cs := dropMark text.toList
  let s ← lines? (cs.length + 1) {} cs
  some (.table (Tree.documents s.members))

end Syslog.Toml
