import Syslog.Text.Decimal
import Syslog.Text.Hex

/-!
# The pieces of a TOML text

Each reader takes characters and returns what it has read with what follows, or nothing if the
characters do not begin with such a piece.

* blanks, ends of lines and comments, which may hold any character but control characters;
* the four kinds of strings: in one line or in several, with escapes or without;
* keys: bare words and strings of one line, joined by points.
-/

namespace Syslog.Toml

open Text

/-! ## 1. Blanks and comments -/

/-- A blank within a line. -/
def isSpace (c : Char) : Bool := c == ' ' || c == '\t'

/-- Any character that is not a control character, and the tab. -/
def isPlain (c : Char) : Bool := c == '\t' || (' ' ≤ c && c != '\x7f')

/-- What follows the blanks. -/
def skipSpaces (cs : List Char) : List Char := cs.dropWhile isSpace

/-- What follows the end of a line. -/
def newline? : List Char → Option (List Char)
  | '\n' :: rest => some rest
  | '\r' :: '\n' :: rest => some rest
  | _ => none

/-- What follows a comment, if one begins here. -/
def skipComment : List Char → List Char
  | '#' :: rest => rest.dropWhile isPlain
  | cs => cs

/-- What follows the rest of a line that holds nothing but blanks and a comment. -/
def endLine? (cs : List Char) : Option (List Char) :=
  match skipComment (skipSpaces cs) with
  | [] => some []
  | rest => newline? rest

/-- What follows blanks, ends of lines and comments. -/
def skipFill (inComment : Bool) : List Char → List Char
  | [] => []
  | '\r' :: '\n' :: rest => skipFill false rest
  | c :: rest =>
    if c == '\n' then skipFill false rest
    else if inComment then if isPlain c then skipFill true rest else c :: rest
    else if isSpace c then skipFill false rest
    else if c == '#' then skipFill true rest
    else c :: rest

/-! ## 2. Strings -/

/-- The character behind a backslash and one letter. -/
def escaped? : Char → Option Char
  | 'b' => some '\x08'
  | 't' => some '\t'
  | 'n' => some '\n'
  | 'f' => some '\x0c'
  | 'r' => some '\r'
  | '"' => some '"'
  | '\\' => some '\\'
  | _ => none

/-- The character whose code point the hexadecimal digits write. -/
def codePoint? (digits : List Char) : Option Char := do
  let n := (← digits.mapM Hex.charValue?).foldl (fun n d => n * 16 + d) 0
  if n.isValidChar then some (Char.ofNat n) else none

/-- Puts a character in front of what a reader has read. -/
def prepend (c : Char) (read : Option (List Char × List Char)) : Option (List Char × List Char) :=
  read.map fun (cs, rest) => (c :: cs, rest)

/-- A string of one line with escapes, after its opening quote. -/
def basic? : List Char → Option (List Char × List Char)
  | [] => none
  | '"' :: rest => some ([], rest)
  | '\\' :: 'u' :: a :: b :: c :: d :: rest => do
    let x ← codePoint? [a, b, c, d]
    prepend x (basic? rest)
  | '\\' :: 'U' :: a :: b :: c :: d :: e :: f :: g :: h :: rest => do
    let x ← codePoint? [a, b, c, d, e, f, g, h]
    prepend x (basic? rest)
  | '\\' :: c :: rest => do
    let x ← escaped? c
    prepend x (basic? rest)
  | c :: rest => if isPlain c then prepend c (basic? rest) else none

/-- A string of one line without escapes, after its opening quote. -/
def literal? (cs : List Char) : Option (List Char × List Char) :=
  let content := cs.takeWhile fun c => isPlain c && c != '\''
  match cs.drop content.length with
  | '\'' :: rest => some (content, rest)
  | _ => none

/-- Three quotes end a string of several lines; up to two quotes directly before them belong to it.
-/
def closing? (mark : Char) (cs : List Char) : Option (List Char × List Char) :=
  let run := (cs.takeWhile (· == mark)).length
  if run < 3 then none else some (List.replicate (min run 5 - 3) mark, cs.drop (min run 5))

/-- A string of several lines with escapes, after its opening quotes. A backslash at the end of a
line takes all blanks and line ends after it along; `skipping` tells that one has just been read. -/
def multiBasic? (skipping : Bool) : List Char → Option (List Char × List Char)
  | [] => none
  | '\\' :: 'u' :: a :: b :: c :: d :: rest => do
    let x ← codePoint? [a, b, c, d]
    prepend x (multiBasic? false rest)
  | '\\' :: 'U' :: a :: b :: c :: d :: e :: f :: g :: h :: rest => do
    let x ← codePoint? [a, b, c, d, e, f, g, h]
    prepend x (multiBasic? false rest)
  | '\\' :: c :: rest =>
    match escaped? c with
    | some x => prepend x (multiBasic? false rest)
    | none =>
      if (newline? (skipSpaces (c :: rest))).isSome then multiBasic? true (c :: rest) else none
  | '\r' :: '\n' :: rest =>
    if skipping then multiBasic? true rest else prepend '\n' (multiBasic? false rest)
  | c :: rest =>
    if skipping && (isSpace c || c == '\n') then multiBasic? true rest
    else if c == '"' then
      match closing? '"' (c :: rest) with
      | some ending => some ending
      | none => prepend c (multiBasic? false rest)
    else if c == '\n' || isPlain c then prepend c (multiBasic? false rest)
    else none

/-- A string of several lines without escapes, after its opening quotes. -/
def multiLiteral? : List Char → Option (List Char × List Char)
  | [] => none
  | '\r' :: '\n' :: rest => prepend '\n' (multiLiteral? rest)
  | c :: rest =>
    if c == '\'' then
      match closing? '\'' (c :: rest) with
      | some ending => some ending
      | none => prepend c (multiLiteral? rest)
    else if c == '\n' || isPlain c then prepend c (multiLiteral? rest)
    else none

/-- What follows the end of a line directly behind opening quotes, which does not count. -/
def skipFirstLine (cs : List Char) : List Char := (newline? cs).getD cs

/-- A string of any kind. -/
def string? : List Char → Option (String × List Char)
  | '"' :: '"' :: '"' :: rest => finish (multiBasic? false (skipFirstLine rest))
  | '\'' :: '\'' :: '\'' :: rest => finish (multiLiteral? (skipFirstLine rest))
  | '"' :: rest => finish (basic? rest)
  | '\'' :: rest => finish (literal? rest)
  | _ => none
where
  finish (read : Option (List Char × List Char)) : Option (String × List Char) :=
    read.map fun (cs, rest) => (String.ofList cs, rest)

/-! ## 3. Keys -/

/-- Tables and lists may be nested less deep than this, and keys joined by fewer points. -/
def maxDepth : Nat := 80

/-- The characters of bare keys. -/
def isBare (c : Char) : Bool :=
  Decimal.isDigit c || ('a' ≤ c && c ≤ 'z') || ('A' ≤ c && c ≤ 'Z') || c == '_' || c == '-'

/-- One key. -/
def simpleKey? (cs : List Char) : Option (String × List Char) :=
  match cs with
  | '"' :: rest => (basic? rest).map fun (k, rest) => (String.ofList k, rest)
  | '\'' :: rest => (literal? rest).map fun (k, rest) => (String.ofList k, rest)
  | _ =>
    let key := cs.takeWhile isBare
    if key.isEmpty then none else some (String.ofList key, cs.dropWhile isBare)

/-- Keys joined by points, with blanks around each; at most `fuel` of them. -/
def keys? : (fuel : Nat) → List Char → Option (List String × List Char)
  | 0, _ => none
  | fuel + 1, cs => do
    let (key, rest) ← simpleKey? (skipSpaces cs)
    match skipSpaces rest with
    | '.' :: rest =>
      let (keys, rest) ← keys? fuel rest
      some (key :: keys, rest)
    | rest => some ([key], rest)

/-- A key: the tables on its way, and its last part. -/
def key? (cs : List Char) : Option ((List String × String) × List Char) := do
  let (keys, rest) ← keys? (maxDepth - 1) cs
  some ((keys.dropLast, keys.getLastD ""), rest)

end Syslog.Toml
