import Syslog.Log
import Syslog.Text.Blank
import Syslog.Text.Case
import Syslog.Text.Decimal
import Syslog.Text.Letter
import Syslog.Text.Pattern
import Syslog.Text.Utf8

/-!
# Filters of the log

A filter says which records are written. It is a list of directives, set apart by commas: a level
for all records, or a level for the records of the parts of the program whose names start with a
given one. A directive can also ask, in brackets, that records have a field. Of the directives that
hold for a record, the one with the longest name decides, and of these the one with most fields.

    info,syslog::server=debug,syslog::client[{target}]=trace

A name without a level stands for all its records, and a text that is no filter for `info`. A
directive that names a span, or the value of a field, holds for no record that stands by itself; but
the value has to be a number or a pattern all the same.
-/

namespace Syslog

/-- How grave the records of a level are; a greater number stands for more records. -/
def LogLevel.verbosity : LogLevel → Nat
  | error => 1
  | warn => 2
  | info => 3
  | debug => 4
  | trace => 5

/-- What is written of the records of a part of the program. -/
structure LogDirective where
  /-- The start of the names of the part; the empty text stands for all. -/
  target : String := ""
  /-- The fields that a record must have. -/
  fields : List String := []
  /-- Does the directive hold only within a span? -/
  isBound : Bool := false
  /-- The verbosity up to which records are written. -/
  verbosity : Nat := LogLevel.trace.verbosity
  deriving DecidableEq, Repr, Inhabited

/-- Directives, of which the most special one counts. -/
structure LogFilter where
  directives : List LogDirective
  deriving DecidableEq, Repr, Inhabited

namespace LogDirective

open Text

/-! ## 1. Reading -/

/-- The verbosity that a word stands for: a level, a number up to 5, or `off`. -/
def verbosity? (s : String) : Option Nat :=
  (Decimal.read? 5 s.toList).or <|
    let word := lowerAscii s
    if word == "off" then some 0 else (LogLevel.named.lookup word).map (·.verbosity)

/-- Can a directive begin with the character? -/
def isStart (c : Char) : Bool :=
  isAlphanumeric c || c == '_' || c == ':' || c == '-' || c == '['

/-- Is it a number without a sign, maybe with a point and an exponent, or one of those without
digits? -/
def isNumber (cs : List Char) : Bool :=
  let whole := cs.takeWhile Decimal.isDigit
  let (fraction, rest) :=
    match cs.drop whole.length with
    | '.' :: rest => rest.span Decimal.isDigit
    | rest => ([], rest)
  let hasExponent : List Char → Bool
    | [] => false
    | cs => cs.all Decimal.isDigit
  let isEnd :=
    match rest with
    | [] => true
    | 'e' :: '+' :: rest | 'e' :: '-' :: rest | 'E' :: '+' :: rest | 'E' :: '-' :: rest
    | 'e' :: rest | 'E' :: rest => hasExponent rest
    | _ => false
  let isWord := ["inf", "infinity", "nan"].contains (lowerAscii (String.ofList cs))
  isWord || (!whole.isEmpty || !fraction.isEmpty) && isEnd

/-- Can a field be compared with the value? A number with a plus sign is no pattern. -/
def isValue (cs : List Char) : Bool :=
  match cs with
  | '+' :: rest => isNumber rest
  | _ => isPattern (String.ofList cs)

/-- A directive that is being read. Its parts are found in the text without the blanks around it,
but cut out of the text as it is: with blanks in front, each part begins and ends earlier by their
length. Places are counted in bytes. -/
structure Source where
  /-- The text as it is. -/
  bytes : Bytes
  /-- The length of the text without the blanks around it. -/
  length : Nat

namespace Source

/-- The length of characters. -/
def size (cs : List Char) : Nat := (Utf8.encode (String.ofList cs)).length

/-- The source of a text, and its characters without the blanks around it. -/
def ofText (s : String) : Source × List Char :=
  let shown := (trim s).toList
  (⟨Utf8.encode s, size shown⟩, shown)

/-- The part before `rest`, from a place on. -/
def before (source : Source) (start : Nat) (rest : List Char) : String :=
  Utf8.decode ((source.bytes.take (source.length - size rest)).drop start)

/-- The place where `rest` begins. -/
def place (source : Source) (rest : List Char) : Nat := source.length - size rest

/-- All from the place where `rest` begins. -/
def behind (source : Source) (rest : List Char) : String :=
  Utf8.decode (source.bytes.drop (source.place rest))

end Source

/-- A field in braces, which may come with a value, and what stands behind the closing brackets after
it. The value ends where another equals sign stands. -/
def withField? (d : LogDirective) (source : Source) (cs : List Char) :
    Option (LogDirective × List Char) :=
  let rest := cs.dropWhile (· != '\x7d')
  let field := source.before (source.place cs) rest
  match rest with
  | '\x7d' :: ']' :: rest =>
    if field.isEmpty then none
    else
      match field.toList.dropWhile (· != '=') with
      | [] => some ({ d with fields := [field] }, rest)
      | _ :: value =>
        if isValue (value.takeWhile (· != '=')) then some ({ d with isBound := true }, rest)
        else none
  | _ => none

/-- The brackets of a directive, after the opening one: the name of a span, and a field. -/
def withBrackets? (d : LogDirective) (source : Source) (cs : List Char) :
    Option (LogDirective × List Char) :=
  match cs.dropWhile fun c => c != ']' && c != '\x7b' with
  | ']' :: rest => some ({ d with isBound := true }, rest)
  | '\x7b' :: rest =>
    ({ d with isBound := cs.head? != some '\x7b' }).withField? source rest
  | _ => none

/-- The level at the end. Without a word it stands for all records. -/
def withLevel? (d : LogDirective) (source : Source) : List Char → Option LogDirective
  | [] => some d
  | '=' :: level =>
    let word := source.behind level
    if word.isEmpty then some d
    else (verbosity? word).map fun verbosity => { d with verbosity }
  | _ => none

/-- Reads a directive. Blanks count as part of it, so a word with blanks is no level. -/
def read? (s : String) : Option LogDirective :=
  let (source, shown) := Source.ofText s
  if !shown.head?.any isStart then none
  else
    let rest := shown.dropWhile fun c => c != '=' && c != '['
    let named : LogDirective := { target := source.before 0 rest }
    match rest with
    | [] => some (((verbosity? s).map fun verbosity => { verbosity }).getD { target := s })
    | '[' :: rest => do
      let (d, rest) ← named.withBrackets? source rest
      d.withLevel? source rest
    | rest => named.withLevel? source rest

/-! ## 2. Which one decides -/

/-- Does the directive hold for the records of a part of the program that have certain fields? -/
def holds (d : LogDirective) (target : String) (fields : List String) : Bool :=
  !d.isBound && target.startsWith d.target && d.fields.all fields.contains

/-- Is a directive at least as special as another one that holds for the same record? -/
def isAsSpecial (a b : LogDirective) : Bool :=
  match compare a.target.length b.target.length, compare a.fields.length b.fields.length with
  | .gt, _ => true
  | .lt, _ => false
  | .eq, .gt => true
  | .eq, .lt => false
  | .eq, .eq => !a.fields.lex b.fields

end LogDirective

namespace LogFilter

/-- Reads a filter. Without any directive only errors are written. -/
def read? (s : String) : Option LogFilter := do
  let directives ← ((s.splitOn ",").filter (!·.isEmpty)).mapM LogDirective.read?
  return ⟨if directives.isEmpty then [{ verbosity := LogLevel.error.verbosity }] else directives⟩

/-- Reads a filter, or takes the usual one in its place. -/
def read (s : String) : LogFilter := (read? s).getD ⟨[{ verbosity := LogLevel.info.verbosity }]⟩

/-- The more special directive; of two equal ones the later. -/
def moreSpecial (a : Option LogDirective) (b : LogDirective) : Option LogDirective :=
  match a with
  | some a => if b.isAsSpecial a then some b else some a
  | none => some b

/-- Are records of a level that have certain fields written for a part of the program? -/
def allows (f : LogFilter) (target : String) (fields : List String) (level : LogLevel) : Bool :=
  match (f.directives.filter (·.holds target fields)).foldl moreSpecial none with
  | some d => level.verbosity ≤ d.verbosity
  | none => false

end LogFilter

end Syslog
