import Syslog.Document
import Syslog.Text.Shortest

/-!
# Numbers of a JSON text

A number without fraction and exponent is whole as long as 64 bits hold it, with a sign or without.
Every other number, and `-0`, becomes a word of 64 bits with fraction: its first digits, as many as
64 bits hold, are multiplied or divided by a power of ten. The result may differ in the last bit
from the word that is nearest. A number that is too great for such a word is none.
-/

namespace Syslog.Json

open Text

/-- The parts of a written number: its sign, and its digits before and after the point. -/
structure Numeral where
  isNegative : Bool
  whole : List Char
  /-- The digits after the point, and the exponent, if there is either of them. -/
  fraction : Option (List Char × Int)

/-- The number of the first digits, as many as 64 bits hold when they follow `n`, and the digits
that are left. -/
def leading (n : Nat) : List Char → Nat × List Char
  | [] => (n, [])
  | c :: cs =>
    let next := n * 10 + Decimal.value c
    if next < UInt64.size then leading next cs else (n, c :: cs)

/-- A power of ten. -/
def tenTo (exponent : Nat) : Float := Float.ofScientific 1 false exponent

/-- Divides by a power of ten, in steps that are powers themselves. -/
def divide (f : Float) (places : Nat) : Float :=
  if places ≤ 308 then f / tenTo places
  else if f == 0 then f
  else divide (f / tenTo 308) (places - 308)
termination_by places

/-- Multiplies or divides by a power of ten. -/
def scale? (f : Float) (exponent : Int) : Option Float :=
  if exponent < 0 then some (divide f exponent.natAbs)
  else if f == 0 then some f
  else if exponent ≤ 308 then
    let g := f * tenTo exponent.toNat
    if g.isInf then none else some g
  else none

namespace Numeral

/-- The number as a word with fraction. -/
def toFloat? (n : Numeral) : Option Float := do
  let (fraction, exponent) := n.fraction.getD ([], 0)
  let (start, dropped) := leading 0 n.whole
  let (digits, left) := leading start fraction
  let shift := exponent + dropped.length - (fraction.length - left.length : Nat)
  let f ← scale? (Float.ofNat digits) shift
  return if n.isNegative then -f else f

/-- The number as a whole number of 64 bits, if it was written as one. -/
def toInt? (n : Numeral) : Option Int :=
  let value := Decimal.ofDigits n.whole
  if n.fraction.isSome then none
  else if n.isNegative then
    if 0 < value && value ≤ UInt64.size / 2 then some (-value) else none
  else if value < UInt64.size then some value
  else none

/-- What the number stands for. -/
def toDocument? (n : Numeral) : Option Document :=
  match n.toInt? with
  | some i => some (.integer i)
  | none => n.toFloat?.map fun f => .decimal (Shortest.render f)

end Numeral

/-- The digits at the start, and what follows them. -/
def spanDigits (cs : List Char) : List Char × List Char :=
  (cs.takeWhile Decimal.isDigit, cs.dropWhile Decimal.isDigit)

/-- The digits after a point, if there is one. -/
def fraction? : List Char → Option (List Char × List Char)
  | '.' :: rest =>
    let (digits, rest) := spanDigits rest
    if digits.isEmpty then none else some (digits, rest)
  | cs => some ([], cs)

/-- An exponent, if there is one. -/
def exponent? : List Char → Option (Int × List Char)
  | c :: rest =>
    if c == 'e' || c == 'E' then
      let (isNegative, rest) := match rest with
        | '-' :: rest => (true, rest)
        | '+' :: rest => (false, rest)
        | rest => (false, rest)
      let (digits, rest) := spanDigits rest
      let n : Int := Decimal.ofDigits digits
      if digits.isEmpty then none else some (if isNegative then -n else n, rest)
    else some (0, c :: rest)
  | [] => some (0, [])

/-- The number at the start of the characters. It begins with 0 only if that is all before the
point. -/
def number? (cs : List Char) : Option (Document × List Char) := do
  let (isNegative, cs) := match cs with
    | '-' :: rest => (true, rest)
    | cs => (false, cs)
  let (whole, cs) := spanDigits cs
  if whole.isEmpty || whole.length > 1 && whole.head? == some '0' then none
  let (digits, after) ← fraction? cs
  let (exponent, rest) ← exponent? after
  let fraction := if rest.length < cs.length then some (digits, exponent) else none
  return (← Numeral.toDocument? { isNegative, whole, fraction }, rest)

end Syslog.Json
