import Syslog.Text.Blank
import Syslog.Text.Hex
import Syslog.Text.Letter

/-!
# Patterns

A pattern describes texts. Most characters stand for themselves; a point stands for any character,
square brackets for one of a class, a star, a plus and a question mark for a repetition of what
stands before them, a bar for a choice, and round brackets for a group. `isPattern` tells whether a
text is a pattern.

* Classes know ASCII only. So the named classes of characters (`\d`, `\s`, `\w`), the edges of words
  and the change of letter case, which would take in all scripts, are no patterns, unless a group
  turns to single bytes by its flag `u`; and bytes beyond ASCII are no characters there.
* A repetition by a number and a code point in braces are no patterns either: an opening brace is
  refused wherever it stands alone.
* Patterns do not nest deeper than `levelLimit`. A group, a class and a repetition are a level above
  what they hold, and so are two pieces or more that stand in a row, are to choose from or make up a
  class.
-/

namespace Syslog.Text

namespace Pattern

/-! ## 1. Modes -/

/-- How the characters of a group are taken, as its flags say. -/
structure Mode where
  ignoresCase : Bool := false
  ignoresBlanks : Bool := false
  /-- Are characters taken from all scripts, and not as bytes? -/
  isWide : Bool := true
  deriving DecidableEq, Repr, Inhabited

namespace Mode

/-- What follows blanks and comments, which a number sign begins and the end of a line ends. -/
def skipBlanks (inComment : Bool) : List Char → List Char
  | [] => []
  | c :: rest =>
    if inComment then skipBlanks (c != '\n') rest
    else if isBlank c then skipBlanks false rest
    else if c == '#' then skipBlanks true rest
    else c :: rest

/-- What follows the characters that count for nothing. -/
def skip (mode : Mode) (cs : List Char) : List Char :=
  if mode.ignoresBlanks then skipBlanks false cs else cs

/-- The mode with one flag set or cleared. -/
def set (mode : Mode) (isOn : Bool) : Char → Mode
  | 'i' => { mode with ignoresCase := isOn }
  | 'x' => { mode with ignoresBlanks := isOn }
  | 'u' => { mode with isWide := isOn }
  | _ => mode

/-- The mode after flags. Each may stand once; a dash clears all after it, and does not stand last.
-/
def change? (mode : Mode) (flags : List Char) : Option Mode :=
  let isKnown := flags.all fun c => c == '-' || "imsUuRx".toList.contains c
  if !isKnown || !decide flags.Nodup || flags.getLast? == some '-' then none
  else
    let set := flags.takeWhile (· != '-')
    let cleared := flags.drop set.length
    some (cleared.foldl (fun m c => m.set false c) (set.foldl (fun m c => m.set true c) mode))

/-- Can a class between colons stand in a class? -/
def fitsNamed (mode : Mode) (isNegated : Bool) : Bool :=
  if mode.isWide then !mode.ignoresCase else !isNegated

end Mode

/-! ## 2. Levels -/

/-- The most levels that a pattern can have. -/
def levelLimit : Nat := 250

/-- The levels of pieces together: one piece has its own, several are a level above them. -/
def together : List Nat → Nat
  | [] => 0
  | [levels] => levels
  | pieces => pieces.foldl max 0 + 1

/-! ## 3. Single characters -/

/-- What stands for one character, or for a place between two. -/
inductive Atom where
  | literal (c : Char) (isByte : Bool)
  /-- A class of characters with a name of one letter. -/
  | named (isNegated : Bool)
  | edge (ofWord : Bool)
  deriving DecidableEq, Repr

/-- The number that so many hexadecimal digits write. -/
def hexNumber? (mode : Mode) : (count value : Nat) → List Char → Option (Nat × List Char)
  | 0, value, cs => some (value, cs)
  | count + 1, value, cs =>
    match mode.skip cs with
    | c :: rest => do hexNumber? mode count (16 * value + (← Hex.charValue? c)) rest
    | [] => none

/-- A character that so many hexadecimal digits write. -/
def hex? (mode : Mode) (count : Nat) (cs : List Char) : Option (Atom × List Char) := do
  let (n, rest) ← hexNumber? mode count 0 cs
  if n.isValidChar then some (.literal (Char.ofNat n) (count == 2), rest) else none

/-- What a backslash stands for together with the characters after it. -/
def escape? (mode : Mode) : List Char → Option (Atom × List Char)
  | [] => none
  | c :: rest =>
    match c with
    | 'x' => hex? mode 2 rest
    | 'u' => hex? mode 4 rest
    | 'U' => hex? mode 8 rest
    | 'd' | 's' | 'w' => some (.named false, rest)
    | 'D' | 'S' | 'W' => some (.named true, rest)
    | 'A' | 'z' => some (.edge false, rest)
    | 'b' | 'B' | '<' | '>' => some (.edge true, rest)
    | 'a' => some (.literal '\x07' false, rest)
    | 't' => some (.literal '\t' false, rest)
    | 'n' => some (.literal '\n' false, rest)
    | 'v' => some (.literal '\x0b' false, rest)
    | 'f' => some (.literal '\x0c' false, rest)
    | 'r' => some (.literal '\r' false, rest)
    | c => if c.isAlphanum || '\x7f' < c then none else some (.literal c false, rest)

/-- Can the atom stand outside of classes? -/
def Atom.fits (mode : Mode) : Atom → Bool
  | literal c isByte => if mode.isWide then !mode.ignoresCase else !isByte || c ≤ '\x7f'
  | named isNegated => !mode.isWide && !isNegated
  | edge ofWord => !(ofWord && mode.isWide)

/-- Can the atom stand in a class? -/
def Atom.fitsClass (mode : Mode) : Atom → Bool
  | literal c _ => if mode.isWide then !mode.ignoresCase else c ≤ '\x7f'
  | named isNegated => !mode.isWide && !isNegated
  | edge _ => false

/-! ## 4. Classes -/

/-- The names of classes between colons. -/
def classNames : List String :=
  ["alnum", "alpha", "ascii", "blank", "cntrl", "digit", "graph", "lower", "print", "punct",
    "space", "upper", "word", "xdigit"]

/-- A class between colons, after the opening bracket: is it negated, and what follows it? -/
def namedClass? : List Char → Option (Bool × List Char)
  | ':' :: rest =>
    let isNegated := rest.head? == some '^'
    let rest := if isNegated then rest.drop 1 else rest
    let name := rest.takeWhile (· != ':')
    match rest.drop name.length with
    | ':' :: ']' :: rest =>
      if classNames.contains (String.ofList name) then some (isNegated, rest) else none
    | _ => none
  | _ => none

/-- A member of a class. -/
def member? (mode : Mode) : List Char → Option (Atom × List Char)
  | [] => none
  | '\\' :: rest => escape? mode rest
  | c :: rest => some (.literal c false, rest)

/-- A member of a class, or the first and the last one of a range, and what follows. A dash in front
of a bracket or of another dash makes no range. -/
def range? (mode : Mode) (cs : List Char) : Option (List Char) := do
  let (first, rest) ← member? mode cs
  let rest := mode.skip rest
  let single := if first.fitsClass mode then some rest else none
  match rest with
  | [] => none
  | '-' :: behind =>
    match mode.skip behind with
    | [] => none
    | ']' :: _ | '-' :: _ => single
    | behind => do
      let (last, rest) ← member? mode behind
      match first, last with
      | .literal a _, .literal b _ =>
        if a ≤ b && first.fitsClass mode && last.fitsClass mode then some rest else none
      | _, _ => none
  | _ => single

/-- How far a class has got. -/
inductive Progress where
  | opened
  /-- A caret was read, which negates the class. -/
  | empty
  /-- Only dashes were read, each of which stands for itself. -/
  | dashes
  | filled
  deriving DecidableEq, Repr

/-- A class that is being read. -/
structure OpenClass where
  /-- The levels of what stands to the left of the last sign that joins parts. -/
  left : Option Nat := none
  /-- The levels of the members after it. -/
  members : List Nat := []
  deriving Repr, Inhabited

namespace OpenClass

/-- The class with one member more, of so many levels. -/
def add (c : OpenClass) (levels : Nat) : OpenClass := { c with members := levels :: c.members }

/-- The levels of all that was read. -/
def levels (c : OpenClass) : Nat :=
  match c.left with
  | none => together c.members
  | some left => max left (together c.members) + 1

/-- The class after a sign that joins what was read with what comes. -/
def join (c : OpenClass) : OpenClass := { left := some c.levels }

end OpenClass

/-- The levels of a class that stands in `outer` others, and what follows it. Two equal signs join
the parts of a class. Every character takes at most one step of `fuel`. -/
def class? (mode : Mode) :
    (fuel : Nat) → (outer : List OpenClass) → OpenClass → Progress → List Char →
      Option (Nat × List Char)
  | 0, _, _, _, _ => none
  | fuel + 1, outer, c, progress, cs =>
    let more (c : OpenClass) (progress : Progress) (rest : List Char) :=
      class? mode fuel outer c progress rest
    let single (sign : Char) (progress : Progress) (rest : List Char) :=
      if (Atom.literal sign false).fitsClass mode then more (c.add 0) progress rest else none
    match progress, mode.skip cs with
    | _, [] => none
    | .opened, '^' :: rest => if mode.isWide then more c .empty rest else none
    | .opened, ']' :: rest | .empty, ']' :: rest => single ']' .filled rest
    | .filled, '-' :: '-' :: rest => more c.join .filled rest
    | .filled, '-' :: rest => do more (c.add 0) .filled (← range? mode ('-' :: rest))
    | _, '-' :: rest => single '-' .dashes rest
    | _, '&' :: '&' :: rest | _, '~' :: '~' :: rest => more c.join .filled rest
    | _, ']' :: rest =>
      match outer with
      | [] => some (c.levels + 1, rest)
      | around :: outer => class? mode fuel outer (around.add (c.levels + 1)) .filled rest
    | _, '[' :: rest =>
      match namedClass? rest with
      | some (isNegated, rest) =>
        if mode.fitsNamed isNegated then more (c.add 0) .filled rest else none
      | none => class? mode fuel (c :: outer) {} .opened rest
    | _, cs => do more (c.add 0) .filled (← range? mode cs)

/-! ## 5. Groups and repetitions -/

/-- A group that is being read, or the whole pattern. -/
structure OpenGroup where
  mode : Mode := {}
  /-- The levels of the choices before the last bar. -/
  choices : List Nat := []
  /-- The levels of the pieces after it, the last first. -/
  pieces : List Nat := []
  deriving Repr, Inhabited

/-- The levels of all that was read. -/
def OpenGroup.levels (g : OpenGroup) : Nat := together (together g.pieces :: g.choices)

/-- How far a pattern has been read. -/
structure State where
  group : OpenGroup := {}
  /-- The groups around it that are open, the innermost first. -/
  outer : List OpenGroup := []
  /-- Does something stand directly before that can be repeated? -/
  canRepeat : Bool := false
  /-- The names of groups. -/
  names : List (List Char) := []
  deriving Repr, Inhabited

namespace State

/-- How characters are taken. -/
def mode (s : State) : Mode := s.group.mode

/-- A group begins. -/
def enter (s : State) (mode : Mode) : State :=
  { s with group := { mode }, outer := s.group :: s.outer, canRepeat := false }

/-- A piece of so many levels was read. -/
def add (s : State) (levels : Nat) (canRepeat : Bool) : State :=
  { s with group.pieces := levels :: s.group.pieces, canRepeat }

/-- The group ends. -/
def leave? (s : State) : Option State :=
  match s.outer with
  | around :: outer => some ({ s with group := around, outer }.add (s.group.levels + 1) true)
  | [] => none

/-- What comes is another choice. -/
def choose (s : State) : State :=
  { s with
    group := { s.group with choices := together s.group.pieces :: s.group.choices, pieces := [] }
    canRepeat := false }

/-- The last piece is repeated. -/
def again? (s : State) : Option State :=
  match s.canRepeat, s.group.pieces with
  | true, levels :: pieces => some { s with group.pieces := (levels + 1) :: pieces }
  | _, _ => none

/-- Is the text a name of a group? -/
def isName : List Char → Bool
  | [] => false
  | c :: rest =>
    (c == '_' || isLetter c) &&
      rest.all fun c => c == '_' || c == '.' || c == '[' || c == ']' || isAlphanumeric c

/-- A group with a name, after the bracket that opens the name. -/
def named? (s : State) (cs : List Char) : Option (State × List Char) :=
  let name := cs.takeWhile (· != '>')
  match cs.drop name.length with
  | '>' :: rest =>
    if isName name && !s.names.contains name then
      some ({ s.enter s.mode with names := name :: s.names }, rest)
    else none
  | _ => none

/-- Flags, for the rest of the group around them or for a group of their own. -/
def flags? (s : State) (cs : List Char) : Option (State × List Char) := do
  let flags := cs.takeWhile fun c => c != ':' && c != ')'
  let mode ← s.mode.change? flags
  match cs.drop flags.length with
  | ':' :: rest => some (s.enter mode, rest)
  | ')' :: rest =>
    if flags.isEmpty then none else some ({ s with group.mode := mode }.add 0 false, rest)
  | _ => none

/-- A group, after its opening bracket. -/
def group? (s : State) : List Char → Option (State × List Char)
  | '?' :: '=' :: _ | '?' :: '!' :: _ | '?' :: '<' :: '=' :: _ | '?' :: '<' :: '!' :: _ => none
  | '?' :: 'P' :: '<' :: rest | '?' :: '<' :: rest => s.named? rest
  | '?' :: rest => s.flags? rest
  | rest => some (s.enter s.mode, rest)

/-- An atom was read. -/
def note? (s : State) (atom : Atom) (rest : List Char) : Option (State × List Char) :=
  if atom.fits s.mode then some (s.add 0 true, rest) else none

/-- The next piece of a pattern. -/
def step? (s : State) : List Char → Option (State × List Char)
  | [] => none
  | c :: rest =>
    match c with
    | '(' => s.group? (s.mode.skip rest)
    | ')' => s.leave?.map (·, rest)
    | '|' => some (s.choose, rest)
    | '*' | '+' | '?' =>
      s.again?.map (·, if rest.head? == some '?' then rest.drop 1 else rest)
    | '\x7b' => none
    | '[' =>
      (class? s.mode (rest.length + 1) [] {} .opened rest).map fun (levels, rest) =>
        (s.add levels true, rest)
    | '.' => if s.mode.isWide then some (s.add 0 true, rest) else none
    | '^' | '$' => some (s.add 0 true, rest)
    | '\\' => do
      let (atom, rest) ← escape? s.mode rest
      s.note? atom rest
    | c => s.note? (.literal c false) rest

/-- All pieces, each of which takes a step of `fuel`. -/
def readAll? : (fuel : Nat) → State → List Char → Option State
  | 0, _, _ => none
  | fuel + 1, s, cs =>
    match s.mode.skip cs with
    | [] => some s
    | cs => do
      let (s, rest) ← s.step? cs
      readAll? fuel s rest

end State

end Pattern

/-- Is the text a pattern? -/
def isPattern (s : String) : Bool :=
  match Pattern.State.readAll? (s.length + 1) {} s.toList with
  | some s => s.outer.isEmpty && s.group.levels ≤ Pattern.levelLimit
  | none => false

example : isPattern "(?:a|[^b-d&&c])+?$" = true ∧ isPattern "(?-u:\\d)**" = true := by
  decide +kernel
example : isPattern "(" = false ∧ isPattern "*" = false ∧ isPattern "\\d" = false := by
  decide +kernel
example :
    (Pattern.State.readAll? 20 {} "((a|b)c)*".toList).map (·.group.levels) = some 5 := by
  decide +kernel

end Syslog.Text
