import Syslog.Text.Blank
import Syslog.Text.Decimal

/-!
# Lengths of time

A `Duration` is a number of nanoseconds. In settings it is written as numbers with units that add
up, as in `1h 30m`; in messages it is shown in the largest unit that leaves something before the
point, as in `1.5s`.

* `read?` takes digits with an optional fraction and a unit, with blanks around and between them;
  digits may be set apart by blanks. `0` alone needs no unit. All numbers on the way stay below 2⁶⁴:
  products of a number and its unit, sums of whole seconds, and sums of nanoseconds below a second.
  A fraction must come out even: in whole nanoseconds for units up to the minute, in whole seconds
  for longer ones.
* `render` cuts trailing zeros.
-/

namespace Syslog.Time

open Text

/-- A length of time. -/
structure Duration where
  nanoseconds : Nat
  deriving DecidableEq, Repr, Inhabited, Ord

namespace Duration

/-- No time at all. -/
def zero : Duration := ⟨0⟩

/-- A number of seconds. -/
def ofSeconds (n : Nat) : Duration := ⟨n * 1000000000⟩

/-- A number of milliseconds. -/
def ofMillis (n : Nat) : Duration := ⟨n * 1000000⟩

/-- The whole seconds. -/
def wholeSeconds (d : Duration) : Nat := d.nanoseconds / 1000000000

/-- The nanoseconds after the whole seconds. -/
def subsecond (d : Duration) : Nat := d.nanoseconds % 1000000000

/-! ## 1. Writing -/

/-- A number of `part`s of a unit that has `whole` of them, as units and decimals, the decimals
without trailing zeros. -/
def decimals (places part : Nat) : String :=
  let ds := Decimal.padLeft places '0' (Decimal.digits part)
  let kept := (ds.reverse.dropWhile (· == '0')).reverse
  if kept.isEmpty then "" else String.ofList ('.' :: kept)

/-- The duration in the largest of four units that does not make it smaller than one. -/
def render (d : Duration) : String :=
  let n := d.nanoseconds
  if n ≥ 1000000000 then
    Decimal.render (n / 1000000000) ++ decimals 9 (n % 1000000000) ++ "s"
  else if n ≥ 1000000 then Decimal.render (n / 1000000) ++ decimals 6 (n % 1000000) ++ "ms"
  else if n ≥ 1000 then Decimal.render (n / 1000) ++ decimals 3 (n % 1000) ++ "µs"
  else Decimal.render n ++ "ns"

example : render ⟨1500000000⟩ = "1.5s" := by decide +kernel

/-! ## 2. Reading -/

/-- A unit: what one of it is, and in what its fractions are counted. -/
inductive Unit where
  /-- So many nanoseconds, and less than a second. -/
  | parts (nanoseconds : Nat)
  /-- So many seconds, with fractions in nanoseconds. -/
  | short (seconds : Nat)
  /-- So many seconds, with fractions in seconds. -/
  | long (seconds : Nat)

/-- The unit of a name. -/
def Unit.ofName? : String → Option Unit
  | "nanos" | "nsec" | "ns" => some (.parts 1)
  | "usec" | "us" | "µs" => some (.parts 1000)
  | "millis" | "msec" | "ms" => some (.parts 1000000)
  | "seconds" | "second" | "secs" | "sec" | "s" => some (.short 1)
  | "minutes" | "minute" | "min" | "mins" | "m" => some (.short 60)
  | "hours" | "hour" | "hr" | "hrs" | "h" => some (.long 3600)
  | "days" | "day" | "d" => some (.long 86400)
  | "weeks" | "week" | "wk" | "wks" | "w" => some (.long 604800)
  | "months" | "month" | "M" => some (.long 2630016)
  | "years" | "year" | "yr" | "yrs" | "y" => some (.long 31557600)
  | _ => none

/-- What a word of 64 bits can hold. -/
def fits (n : Nat) : Bool := n < UInt64.size

/-- A number, if a word of 64 bits can hold it. -/
def word? (n : Nat) : Option Nat := if fits n then some n else none

/-- A number of units, as seconds and nanoseconds. -/
def Unit.whole? (n : Nat) : Unit → Option (Nat × Nat)
  | .parts k => (word? (n * k)).map (0, ·)
  | .short k | .long k => (word? (n * k)).map (·, 0)

/-- A fraction of so many parts, if it comes out even. -/
def even? (digits : List Char) (parts : Nat) : Option Nat := do
  let denominator ← word? (Nat.pow 10 digits.length)
  let product ← word? (Decimal.ofDigits digits * parts)
  if product % denominator == 0 then some (product / denominator) else none

/-- A fraction of a unit, given by its digits, as seconds and nanoseconds. A nanosecond has none. -/
def Unit.fraction? (digits : List Char) : Unit → Option (Nat × Nat)
  | .parts k => if k ≤ 1 then none else (even? digits k).map (0, ·)
  | .short k => (even? digits (k * 1000000000)).map (0, ·)
  | .long k => (even? digits k).map (·, 0)

/-- Adds seconds and nanoseconds. -/
def add? (d : Duration) (more : Nat × Nat) : Option Duration := do
  let nanoseconds ← word? (d.subsecond + more.2)
  let seconds ← word? (d.wholeSeconds + more.1 + nanoseconds / 1000000000)
  return ⟨seconds * 1000000000 + nanoseconds % 1000000000⟩

/-- Can the character stand in the name of a unit? -/
def isUnitChar (c : Char) : Bool :=
  ('a' ≤ c && c ≤ 'z') || ('A' ≤ c && c ≤ 'Z') || c == 'µ'

/-- Can the character stand among the digits of a number? -/
def isNumberChar (c : Char) : Bool := Decimal.isDigit c || isBlank c

/-- The digits among the characters at the start, blanks left out, and what follows them. -/
def spanNumber (cs : List Char) : List Char × List Char :=
  ((cs.takeWhile isNumberChar).filter Decimal.isDigit, cs.dropWhile isNumberChar)

/-- The fraction after a number, if a point follows: its digits, and what comes after them. -/
def spanFraction : List Char → Option (Option (List Char) × List Char)
  | '.' :: rest =>
    let (ds, rest) := spanNumber rest
    if ds.isEmpty then none else some (some ds, rest)
  | rest => some (none, rest)

/-- Adds a number with its unit, first what is before the point. -/
def addAmount? (d : Duration) (whole : List Char) (fraction : Option (List Char))
    (unit : String) : Option Duration := do
  let u ← Unit.ofName? unit
  let d ← d.add? (← u.whole? (← word? (Decimal.ofDigits whole)))
  match fraction with
  | none => some d
  | some digits => d.add? (← u.fraction? digits)

/-- Adds the numbers with units in the characters. Each number takes at least one step of `fuel`, of
which one for each character is enough. -/
def sum? : (fuel : Nat) → (soFar : Duration) → List Char → Option Duration
  | 0, _, _ => none
  | fuel + 1, soFar, cs => do
    let (whole, rest) := spanNumber cs
    if whole.isEmpty then
      if rest.isEmpty then some soFar else none
    else
      let (fraction, rest) ← spanFraction rest
      let total ← soFar.addAmount? whole fraction (String.ofList (rest.takeWhile isUnitChar))
      match rest.dropWhile isUnitChar with
      | [] => some total
      | c :: rest => if isNumberChar c then sum? fuel total (c :: rest) else none

/-- The duration that a text writes. -/
def read? (s : String) : Option Duration :=
  let cs := s.toList
  if cs == ['0'] then some zero
  else if cs.all isBlank then none
  else sum? (cs.length + 1) zero cs

example : read? " 1h 30m" = some (ofSeconds 5400) := by decide +kernel
example : read? "1.5s1ms" = some ⟨1501000000⟩ := by decide +kernel
example : read? "5" = none := by decide +kernel
example : read? "0.1h" = some (ofSeconds 360) := by decide +kernel
example : read? "0.0001h" = none := by decide +kernel

end Duration

end Syslog.Time
