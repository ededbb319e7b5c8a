/-!
# Decimal numbers

* `render` writes a number without sign or leading zeros, `padLeft` fills it up to a width;
* `ofDigits` is the value of a run of digits;
* `read?` reads a number in the form that settings use: an optional plus sign and at least one
  digit, with a value up to a given limit.
-/

namespace Syslog.Text.Decimal

/-- Is it one of the ten ASCII digits? -/
def isDigit (c : Char) : Bool := '0' ≤ c && c ≤ '9'

/-- The value of a digit. -/
def value (c : Char) : Nat := c.toNat - '0'.toNat

/-- The value of a run of digits. -/
def ofDigits (cs : List Char) : Nat := cs.foldl (fun n c => n * 10 + value c) 0

/-- The digits of a number. -/
def digits (n : Nat) : List Char := Nat.toDigits 10 n

/-- The number as text. -/
def render (n : Nat) : String := String.ofList (digits n)

/-- Fills the characters up to a width on the left. -/
def padLeft (width : Nat) (fill : Char) (cs : List Char) : List Char :=
  List.replicate (width - cs.length) fill ++ cs

/-- The number with at least `width` digits. -/
def padded (width n : Nat) : String := String.ofList (padLeft width '0' (digits n))

/-- The number that the characters write, at most `limit`, with an optional plus sign. -/
def read? (limit : Nat) (cs : List Char) : Option Nat :=
  let ds := match cs with
    | '+' :: rest => rest
    | _ => cs
  if ds.isEmpty || !ds.all isDigit then none
  else
    let n := ofDigits ds
    if n ≤ limit then some n else none

end Syslog.Text.Decimal
