/-!
# One list inside another

* `startsWith` and `endsWith` ask for a list at either end;
* `firstIndex?` is the leftmost place of a pattern, `splitLast?` what stands before and after the
  rightmost one;
* `replaceFirst` puts something else in the leftmost place.

The empty pattern occurs everywhere: first at the start, last at the end.
-/

namespace Syslog.Search

variable {α : Type} [BEq α]

/-- Does the list start with `head`? -/
def startsWith (xs head : List α) : Bool := head.isPrefixOf xs

/-- Does the list end with `tail`? -/
def endsWith (xs tail : List α) : Bool := tail.isSuffixOf xs

/-- The number of elements before the leftmost occurrence of `pattern`. -/
def firstIndex? (pattern : List α) : List α → Option Nat
  | [] => if pattern.isEmpty then some 0 else none
  | x :: xs =>
    if startsWith (x :: xs) pattern then some 0 else (firstIndex? pattern xs).map (· + 1)

/-- The list with `new` for the leftmost occurrence of `pattern`, if there is one. -/
def replaceFirst (pattern new xs : List α) : List α :=
  match firstIndex? pattern xs with
  | some i => xs.take i ++ new ++ xs.drop (i + pattern.length)
  | none => xs

/-- What stands before and after the rightmost occurrence of `pattern`. -/
def splitLast? (pattern : List α) : List α → Option (List α × List α)
  | [] => if pattern.isEmpty then some ([], []) else none
  | x :: xs =>
    match splitLast? pattern xs with
    | some (before, after) => some (x :: before, after)
    | none => (pattern.isPrefixOf? (x :: xs)).map ([], ·)

end Syslog.Search
