import Syslog.Text.Decimal

/-!
# Numbers in the fewest digits

A word of 64 bits with fraction stands for all numbers that round to it. It is written with as few
digits as tell it from every other word, and of these with the ones that come nearest.

* `Binary` is the number of a word, and `readsBack` the interval of the numbers that round to it:
  halfway to its neighbours, the ends included if its mantissa is even.
* `digits` tries one digit, two digits and so on. On each grid of decimals only the two neighbours
  of the number can read back: the greatest decimal that is not greater, and the next.
* `render` puts the point. The digits stand in their places from 10⁻⁵ up to 10¹⁶, with at least one
  digit after the point, and before a signed exponent elsewhere.
-/

namespace Syslog.Text

/-! ## 1. The numbers that round to a word -/

/-- The number `mantissa · 2 ^ exponent`, as a word of 64 bits with fraction holds it. -/
structure Binary where
  mantissa : Nat
  exponent : Int
  /-- Is the next smaller word half as far away as the next greater one? -/
  isNarrowBelow : Bool
  deriving DecidableEq, Repr, Inhabited

namespace Binary

/-- The number of a word, without its sign. -/
def ofBits (bits : UInt64) : Binary :=
  let fraction : Nat := bits.toNat % 0x10000000000000
  let scale : Nat := bits.toNat / 0x10000000000000 % 0x800
  if scale == 0 then ⟨fraction, -1074, false⟩
  else ⟨0x10000000000000 + fraction, (scale : Int) - 1075, fraction == 0 && scale > 1⟩

/-- The number as a fraction. -/
def value (x : Binary) : Rat := x.mantissa * 2 ^ x.exponent

/-- The least number that may round to the word. -/
def lower (x : Binary) : Rat :=
  (4 * x.mantissa - (if x.isNarrowBelow then 1 else 2)) * 2 ^ (x.exponent - 2)

/-- The greatest number that may round to the word. -/
def upper (x : Binary) : Rat := (4 * x.mantissa + 2) * 2 ^ (x.exponent - 2)

/-- Does the number round to the word? -/
def readsBack (x : Binary) (r : Rat) : Bool :=
  let ends := x.mantissa % 2 == 0
  (x.lower < r || ends && x.lower == r) && (r < x.upper || ends && r == x.upper)

end Binary

/-! ## 2. The digits -/

namespace Shortest

/-- The number `digits · 10 ^ exponent`. -/
structure Scientific where
  digits : Nat
  exponent : Int
  deriving DecidableEq, Repr, Inhabited

/-- The number as a fraction. -/
def Scientific.value (d : Scientific) : Rat := d.digits * 10 ^ d.exponent

/-- The nearer one of the neighbours of the number among the multiples of a power of ten that read
back; of two that are equally near the even one. -/
def onGrid? (x : Binary) (exponent : Int) : Option Scientific :=
  let below : Scientific := ⟨(x.value / 10 ^ exponent).floor.toNat, exponent⟩
  let above : Scientific := ⟨below.digits + 1, exponent⟩
  match x.readsBack below.value, x.readsBack above.value with
  | true, true =>
    let twice := 2 * x.value
    let sum := below.value + above.value
    if twice < sum || twice == sum && below.digits % 2 == 0 then some below else some above
  | true, false => some below
  | false, true => some above
  | false, false => none

/-- How many digits stand before the point: the least power of ten above the number. It is found
from the number of binary digits, which leaves three choices. -/
def magnitude (x : Binary) : Int :=
  let guess := ((x.exponent + x.mantissa.log2) * 30103).fdiv 100000
  if x.value < 10 ^ guess then guess
  else if x.value < 10 ^ (guess + 1) then guess + 1
  else guess + 2

/-- The fewest digits that read back. Seventeen are always enough. -/
def digits (x : Binary) : Scientific :=
  let top := magnitude x
  ((List.range' 1 17).findSome? fun n : Nat => onGrid? x (top - n)).getD ⟨0, 0⟩

/-! ## 3. Writing -/

/-- Digits with the point in its place; `lead` is the power of ten of the first digit. -/
def positional (ds : List Char) (lead : Int) : List Char :=
  let before := (lead + 1).toNat
  if lead < 0 then '0' :: '.' :: List.replicate (-lead - 1).toNat '0' ++ ds
  else
    let whole := ds.take before ++ List.replicate (before - ds.length) '0'
    whole ++ '.' :: (if ds.length ≤ before then ['0'] else ds.drop before)

/-- Digits with one of them before the point, and an exponent. -/
def scientific (ds : List Char) (lead : Int) : List Char :=
  let fraction := ds.drop 1
  ds.take 1 ++ (if fraction.isEmpty then [] else '.' :: fraction) ++
    ['e', if lead < 0 then '-' else '+'] ++
    Decimal.digits lead.natAbs

/-- The number without its sign. -/
def magnitudeText (x : Binary) : List Char :=
  if x.mantissa == 0 then ['0', '.', '0']
  else
    let d := digits x
    let ds := Decimal.digits d.digits
    let lead := d.exponent + ds.length - 1
    let kept := (ds.reverse.dropWhile (· == '0')).reverse
    if -5 ≤ lead && lead < 16 then positional kept lead else scientific kept lead

/-- The finite number of a word of 64 bits with fraction. -/
def render (x : Float) : String :=
  let bits := x.toBits
  let text := magnitudeText (.ofBits bits)
  String.ofList (if bits ≥ 0x8000000000000000 then '-' :: text else text)

example : render 0.1 = "0.1" := by decide +kernel
example : render (-1e-5) = "-0.00001" := by decide +kernel
example : render 2.5e-7 = "2.5e-7" := by decide +kernel
example : render 1e23 = "1e+23" := by decide +kernel

end Shortest

end Syslog.Text
