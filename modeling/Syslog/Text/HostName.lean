import Syslog.Text.Blank
import Syslog.Text.Decimal

/-!
# Names of hosts

What a certificate can be issued to: a name of labels, or the address of a host.

* A name has at most 253 characters. Its labels are of letters, digits, hyphens and underscores, at
  most 63 each; a hyphen neither begins nor ends a label, and the last label is not a number. One
  dot may end the name.
* An address of version 4 is four numbers below 256, without leading zeros. An address of version 6
  is eight groups of at most four hexadecimal digits; two colons stand for groups of zeros, and an
  address of version 4 for the last two groups.
-/

namespace Syslog.Text.HostName

/-! ## 1. Names -/

/-- A letter, a digit or an underscore. -/
def isWord (c : Char) : Bool := c.isAlphanum || c == '_'

/-- May the characters be a label? -/
def isLabel (cs : List Char) : Bool :=
  cs.length ≤ 63 && cs.all (fun c => isWord c || c == '-') &&
    (cs.head?.map isWord).getD false && (cs.getLast?.map isWord).getD false

/-- The parts between the dots. -/
def splitDots (cs : List Char) : List (List Char) := cs.splitOn '.'

/-- The labels of a name; a dot at its end is passed over. -/
def labels (cs : List Char) : List (List Char) :=
  match (splitDots cs).reverse with
  | [] :: rest => rest.reverse
  | all => all.reverse

/-- Is the text a name? -/
def isName (s : String) : Bool :=
  let parts := labels s.toList
  s.utf8ByteSize ≤ 253 && !parts.isEmpty && parts.all isLabel &&
    !((parts.getLast?.map (·.all Char.isDigit)).getD true)

/-! ## 2. Addresses -/

/-- Is the text a number below 256, without leading zeros? -/
def isOctet (cs : List Char) : Bool :=
  !cs.isEmpty && cs.all Char.isDigit && cs.length ≤ 3 && (cs.length == 1 || cs.head? != some '0') &&
    Decimal.ofDigits cs < 256

/-- Is the text an address of version 4? -/
def isVersion4 (cs : List Char) : Bool :=
  let parts := splitDots cs
  parts.length == 4 && parts.all isOctet

/-- Is the text a group of an address of version 6? -/
def isGroup (cs : List Char) : Bool :=
  !cs.isEmpty && cs.length ≤ 4 &&
    cs.all fun c => c.isDigit || ('a' ≤ c && c ≤ 'f') || ('A' ≤ c && c ≤ 'F')

/-- The number of groups that the parts between colons stand for, if they are groups; an address of
version 4 may come last and counts twice. -/
def groups? : List (List Char) → Option Nat
  | [] => some 0
  | [last] => if isGroup last then some 1 else if isVersion4 last then some 2 else none
  | group :: rest => if isGroup group then (groups? rest).map (· + 1) else none

/-- The parts between colons; none of an empty text. -/
def splitColons (cs : List Char) : List (List Char) :=
  if cs.isEmpty then [] else cs.splitOn ':'

/-- The text before and after the first two colons in a row. -/
def splitGap : List Char → Option (List Char × List Char)
  | ':' :: ':' :: rest => some ([], rest)
  | c :: rest => (splitGap rest).map fun (before, after) => (c :: before, after)
  | [] => none

/-- Is the text an address of version 6? -/
def isVersion6 (cs : List Char) : Bool :=
  match splitGap cs with
  | none => groups? (splitColons cs) == some 8
  | some (before, after) =>
    match groups? (splitColons before), groups? (splitColons after) with
    | some n, some m => n + m < 8 && (splitColons before).all isGroup
    | _, _ => false

/-- Can a certificate be issued to the text? -/
def isServerName (s : String) : Bool := isName s || isVersion4 s.toList || isVersion6 s.toList

end Syslog.Text.HostName
