import Syslog.Search
import Syslog.Text.Decimal

/-!
# Sequence numbers

Messages can be numbered. A `Counter` runs from `first` to `last` and then starts again; the number
is appended to the body behind a mark.

* `next` is the number that the next message gets, `advance` hands it out;
* `setNext?`, `setFirst?` and `setLast?` refuse what would leave `first ≤ last` or put the next
  number outside; a bound that moves past the next number takes it along;
* `strip?` takes the number off again: it asks for the last mark, and for digits and padding behind
  it, at least one a digit.
-/

namespace Syslog

/-- How messages are numbered. -/
structure Numbering where
  first : Nat := 0
  last : Nat := 9999
  /-- Are numbers filled up to the width of `last`? -/
  usePadding : Bool := true
  padChar : Char := '0'
  deriving DecidableEq, Repr, Inhabited

namespace Numbering

/-- The numbering with another first number, if that is not above the last. -/
def setFirst? (n : Numbering) (first : Nat) : Option Numbering :=
  if first > n.last then none else some { n with first }

/-- The numbering with another last number, if that is not below the first. -/
def setLast? (n : Numbering) (last : Nat) : Option Numbering :=
  if last < n.first then none else some { n with last }

/-- A number as it is written. -/
def render (n : Numbering) (value : Nat) : String :=
  let ds := Text.Decimal.digits value
  if n.usePadding then
    String.ofList (Text.Decimal.padLeft (Text.Decimal.digits n.last).length n.padChar ds)
  else String.ofList ds

/-- What stands between a text and its number. -/
def mark : List Char := [' ', '#']

/-- Can these characters be a number with its padding? -/
def isWritten (n : Numbering) (cs : List Char) : Bool :=
  cs.any Text.Decimal.isDigit && cs.all fun c => Text.Decimal.isDigit c || c == n.padChar

/-- The text without its number. -/
def strip? (n : Numbering) (text : String) : Option String := do
  let (before, number) ← Search.splitLast? mark text.toList
  if n.isWritten number then some (String.ofList before) else none

end Numbering

/-- A numbering under way. -/
structure Counter where
  numbering : Numbering
  next : Nat
  deriving DecidableEq, Repr, Inhabited

namespace Counter

/-- The counter before its first message. -/
def start (numbering : Numbering) : Counter := ⟨numbering, numbering.first⟩

/-- The number that is due, as text, and the counter after it. -/
def advance (c : Counter) : String × Counter :=
  let next := if c.next ≥ c.numbering.last then c.numbering.first else c.next + 1
  (c.numbering.render c.next, { c with next })

/-- The text with its number, and the counter after it. -/
def number (c : Counter) (text : String) : String × Counter :=
  let (written, c) := c.advance
  (text ++ String.ofList Numbering.mark ++ written, c)

/-- Sets the number that is due, if it lies within the bounds. -/
def setNext? (c : Counter) (next : Nat) : Option Counter :=
  if next < c.numbering.first || next > c.numbering.last then none else some { c with next }

/-- Sets the first number. A number that is due does not fall below it. -/
def setFirst? (c : Counter) (first : Nat) : Option Counter :=
  (c.numbering.setFirst? first).map fun n => ⟨n, max c.next first⟩

/-- Sets the last number. A number that would be due beyond it becomes the first one. -/
def setLast? (c : Counter) (last : Nat) : Option Counter :=
  (c.numbering.setLast? last).map fun n => ⟨n, if c.next > last then n.first else c.next⟩

end Counter

example : ((Counter.start ⟨8, 10, true, '0'⟩).number "up").1 = "up #08" := by decide +kernel
example : (Numbering.mk 0 9 true '0').strip? "up #1 #07" = some "up #1" := by decide +kernel

end Syslog
