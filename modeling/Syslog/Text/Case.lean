import Syslog.Text.Case.Table

/-!
# Letter case

* `toLower` and `toUpper` change the case of every letter of a text, in any script, and may lengthen
  it: one capital letter becomes two characters, some small letters become two or three;
* a capital sigma at the end of a word becomes the final form;
* `lowerAscii` and `equalIgnoringAsciiCase` know the 26 letters of ASCII only.
-/

namespace Syslog.Text

namespace Case

/-- The letter that a run assigns to the code point, if the run holds it. -/
def Run.map? (run : Run) (n : Nat) : Option Nat :=
  if run.first ≤ n && n ≤ run.last && (n - run.first) % run.step == 0 then
    some (n + run.shift).toNat
  else none

/-- What a character becomes: by the table of long changes, else by the runs, else itself. -/
def change (long : List (Nat × List Nat)) (runs : List Run) (c : Char) : List Char :=
  match long.lookup c.toNat with
  | some cs => cs.map Char.ofNat
  | none =>
    match runs.findSome? (·.map? c.toNat) with
    | some n => [Char.ofNat n]
    | none => [c]

/-- Is the next character that counts a letter with case? Characters to be ignored are skipped. -/
def meetsCased (cs : List Char) : Bool :=
  match cs.dropWhile ignorableRanges.has with
  | c :: _ => casedRanges.has c
  | [] => false

/-- The lower case of one character, when the characters before it (last first) and after it are
known: a sigma that follows a letter and precedes none takes its final form. -/
def lowerIn (before : List Char) (c : Char) (after : List Char) : List Char :=
  if c == 'Σ' then
    if meetsCased before && !meetsCased after then ['ς'] else ['σ']
  else change lowerLong lowerRuns c

/-- The lower case of `cs`, with the characters before it in reverse order. -/
def lowerFrom (before : List Char) : List Char → List Char
  | [] => []
  | c :: after => lowerIn before c after ++ lowerFrom (c :: before) after

end Case

/-- The text in lower case. -/
def toLower (s : String) : String := String.ofList (Case.lowerFrom [] s.toList)

/-- The text in upper case. -/
def toUpper (s : String) : String :=
  String.ofList (s.toList.flatMap (Case.change Case.upperLong Case.upperRuns))

/-- The text with the capital letters of ASCII in lower case. -/
def lowerAscii (s : String) : String := String.ofList (s.toList.map Char.toLower)

/-- Are the texts equal but for the case of ASCII letters? -/
def equalIgnoringAsciiCase (s t : String) : Bool := lowerAscii s == lowerAscii t

example : toLower "ΟΔΟΣ Σ" = "οδος σ" := by decide +kernel
example : toUpper "straße" = "STRASSE" := by decide +kernel

end Syslog.Text
