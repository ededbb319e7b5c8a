import Syslog.Document
import Syslog.Time.Rfc3339
import Syslog.Toml.Lexeme

/-!
# Words of a TOML text that are not strings

Truth values, whole numbers of 64 bits with sign in four bases, numbers with fraction or exponent,
dates and times. A word is read as a whole or not at all. Underscores may stand between two digits.
-/

namespace Syslog.Toml

open Text

/-! ## 1. Numbers -/

/-- The digits without the underscores between them. -/
def ungroup? (isDigit : Char → Bool) : List Char → Option (List Char)
  | [] => none
  | [c] => if isDigit c then some [c] else none
  | c :: '_' :: rest => if isDigit c then (ungroup? isDigit rest).map (c :: ·) else none
  | c :: rest => if isDigit c then (ungroup? isDigit rest).map (c :: ·) else none

/-- The sign in front of a number, and what follows it. -/
def sign : List Char → Bool × List Char
  | '-' :: rest => (true, rest)
  | '+' :: rest => (false, rest)
  | cs => (false, cs)

/-- The digits of a whole number, which begins with 0 only if it is 0. -/
def whole? (cs : List Char) : Option (List Char) := do
  let ds ← ungroup? Decimal.isDigit cs
  if ds.length > 1 && ds.head? == some '0' then none else some ds

/-- The number that digits write in a base. -/
def inBase? (base : Nat) (cs : List Char) : Option Nat := do
  let ds ← ungroup? (fun c => (Hex.charValue? c).any (· < base)) cs
  return ds.foldl (fun n c => n * base + (Hex.charValue? c).getD 0) 0

/-- A number, if 64 bits with sign can hold it. -/
def inWord? (n : Int) : Option Int :=
  if Int64.minValue.toInt ≤ n && n ≤ Int64.maxValue.toInt then some n else none

/-- A whole number. -/
def integer? (cs : List Char) : Option Int :=
  match cs with
  | '0' :: 'x' :: rest => do inWord? (← inBase? 16 rest)
  | '0' :: 'o' :: rest => do inWord? (← inBase? 8 rest)
  | '0' :: 'b' :: rest => do inWord? (← inBase? 2 rest)
  | _ => do
    let (negative, rest) := sign cs
    let n : Int := Decimal.ofDigits (← whole? rest)
    inWord? (if negative then -n else n)

/-- The digits of a fraction, after its point. -/
def fraction? : List Char → Option (List Char)
  | [] => some []
  | '.' :: rest => ungroup? Decimal.isDigit rest
  | _ => none

/-- The value of an exponent, after its letter. -/
def exponent? : List Char → Option Int
  | [] => some 0
  | _ :: rest => do
    let (negative, rest) := sign rest
    let n : Int := Decimal.ofDigits (← ungroup? Decimal.isDigit rest)
    return if negative then -n else n

/-- The smallest whole number that a word of 64 bits with fraction rounds to infinity. -/
def firstInfinite : Nat := 1 <<< 1024 - 1 <<< 970

/-- Does `digits · 10 ^ scale` round to infinity? -/
def roundsToInfinity (digits : List Char) (scale : Int) : Bool :=
  let significant := digits.dropWhile (· == '0')
  let magnitude := significant.length + scale
  if significant.isEmpty || magnitude < 309 then false
  else if magnitude > 309 then true
  else if 0 ≤ scale then Decimal.ofDigits significant * Nat.pow 10 scale.toNat ≥ firstInfinite
  else Decimal.ofDigits significant ≥ firstInfinite * Nat.pow 10 scale.natAbs

/-- Is the word a number with fraction or exponent, or one of those without digits? -/
def isDecimal (cs : List Char) : Bool :=
  let (negative, unsigned) := sign cs
  if unsigned == ['i', 'n', 'f'] || unsigned == ['n', 'a', 'n'] then true
  else
    let isMark := fun c => c == 'e' || c == 'E'
    let before := unsigned.takeWhile fun c => !isMark c
    let after := unsigned.dropWhile fun c => !isMark c
    let read := do
      let whole ← whole? (before.takeWhile (· != '.'))
      let fraction ← fraction? (before.dropWhile (· != '.'))
      let exponent ← exponent? after
      some (whole, fraction, exponent)
    match read with
    | some (whole, fraction, exponent) =>
      (before.contains '.' || !after.isEmpty) &&
        (negative || !roundsToInfinity (whole ++ fraction) (exponent - fraction.length))
    | none => false

/-! ## 2. Dates and times -/

/-- A date, and what follows it. -/
def date? (cs : List Char) : Option (List Char) := do
  let (year, cs) ← Time.digits? 4 cs
  let cs ← Time.skip? ['-'] cs
  let (month, cs) ← Time.digits? 2 cs
  let cs ← Time.skip? ['-'] cs
  let (day, cs) ← Time.digits? 2 cs
  if 1 ≤ month && month ≤ 12 && 1 ≤ day && day ≤ Time.daysInMonth year month then some cs else none

/-- A time of day, and what follows it. -/
def timeOfDay? (cs : List Char) : Option (List Char) := do
  let (hour, cs) ← Time.digits? 2 cs
  let cs ← Time.skip? [':'] cs
  let (minute, cs) ← Time.digits? 2 cs
  let cs ← Time.skip? [':'] cs
  let (second, cs) ← Time.digits? 2 cs
  let (_, cs) ← Time.fraction? cs
  if hour < 24 && minute < 60 && second ≤ 60 then some cs else none

/-- Does the text end here, or with an offset? -/
def isOffsetOrEnd : List Char → Bool
  | [] => true
  | '\u2212' :: _ => false
  | cs => (Time.shift? cs).isSome

/-- Is the word a date, a time of day, or both? -/
def isDateTime (cs : List Char) : Bool :=
  match date? cs with
  | some [] => true
  | some (mark :: rest) =>
    (mark == 'T' || mark == 't' || mark == ' ') && (timeOfDay? rest).any isOffsetOrEnd
  | none => timeOfDay? cs == some []

/-! ## 3. Words -/

/-- The value of a word. -/
def word? (cs : List Char) : Option Document :=
  if cs == "true".toList then some (.boolean true)
  else if cs == "false".toList then some (.boolean false)
  else
    match integer? cs with
    | some n => some (.integer n)
    | none =>
      if isDecimal cs then some (.decimal (String.ofList cs))
      else if isDateTime cs then some (.dateTime (String.ofList cs))
      else none

/-- The characters of words. -/
def isWordChar (c : Char) : Bool := isBare c || c == '+' || c == '.' || c == ':'

/-- The word at the start of the characters. A date takes in a time that follows after one blank. -/
def scalar? (cs : List Char) : Option (Document × List Char) :=
  let word := cs.takeWhile isWordChar
  let rest := cs.dropWhile isWordChar
  let single := (word? word).map (·, rest)
  match rest with
  | ' ' :: later =>
    let time := later.takeWhile isWordChar
    if date? word == some [] && isDateTime (word ++ ' ' :: time) then
      some (.dateTime (String.ofList (word ++ ' ' :: time)), later.dropWhile isWordChar)
    else single
  | _ => single

end Syslog.Toml
