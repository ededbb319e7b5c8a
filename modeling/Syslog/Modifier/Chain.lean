import Syslog.Modifier
import Syslog.Text.Quoted

/-!
# Chains of modifiers

Modifiers are applied in order, each to what the one before it gives. A chain verifies a message by
stripping from the last modifier to the first. Positions are counted from 0; one past the end is an
error.
-/

namespace Syslog

/-- Modifiers in the order in which they are applied. -/
structure Chain where
  modifiers : List Modifier := []
  deriving DecidableEq, Repr, Inhabited

namespace Chain

/-- The chain of the settings; the first that are refused name the error. -/
def ofSettings (settings : List ModifierSettings) : Except ModifierError Chain :=
  return ⟨← settings.mapM Modifier.ofSettings⟩

/-- The names of the modifiers. -/
def names (c : Chain) : List String := c.modifiers.map (·.name)

/-- The number of modifiers. -/
def length (c : Chain) : Nat := c.modifiers.length

/-- The first modifier of a name. -/
def get? (c : Chain) (name : String) : Option Modifier := c.modifiers.find? (·.name == name)

/-! ## 1. Editing -/

/-- The chain with a modifier at its end. -/
def push (c : Chain) (m : Modifier) : Chain := ⟨c.modifiers ++ [m]⟩

/-- The chain with a modifier at a position. -/
def insert (c : Chain) (index : Nat) (m : Modifier) : Except ModifierError Chain :=
  if index > c.length then .error (.indexOutOfRange index c.length)
  else .ok ⟨c.modifiers.insertIdx index m⟩

/-- The modifier at a position, and the chain without it. -/
def remove (c : Chain) (index : Nat) : Except ModifierError (Modifier × Chain) :=
  match c.modifiers[index]? with
  | some m => .ok (m, ⟨c.modifiers.eraseIdx index⟩)
  | none => .error (.indexOutOfRange index c.length)

/-! ## 2. Applying and verifying -/

/-- The message after every modifier, and the modifiers after it. -/
def applyAll (m : Message) : List Modifier → Message × List Modifier
  | [] => (m, [])
  | modifier :: rest =>
    let (m, modifier) := modifier.apply m
    let (m, rest) := applyAll m rest
    (m, modifier :: rest)

/-- The message after every modifier, and the chain after it. -/
def apply (c : Chain) (m : Message) : Message × Chain :=
  let (m, modifiers) := applyAll m c.modifiers
  (m, ⟨modifiers⟩)

/-- The message before every modifier, taken back from the last to the first. -/
def strip? (c : Chain) (m : Message) : Option Message :=
  c.modifiers.foldr (fun modifier m => m.bind modifier.strip?) (some m)

/-- Can the message have come from the chain? -/
def verify (c : Chain) (m : Message) : Bool := (c.strip? m).isSome

/-- The chain in words. -/
def describe (c : Chain) : String :=
  "Chain \x7b modifiers: " ++ Text.Quoted.list c.names ++ " \x7d"

end Chain

end Syslog
