import Syslog.Modifier.Counter
import Syslog.Modifier.Signer
import Syslog.Text.Case

/-!
# Modifiers

A modifier changes the body of every message before it is sent: it numbers it, signs it, or changes
its letters.

* `ModifierSettings` are what a configuration holds, `Modifier` is what runs, with the counter where
  there is one; a key must not be empty;
* `apply` gives the changed message and the modifier after it;
* `strip?` takes the change back, where it can be told: a change of letters cannot, and passes.
-/

namespace Syslog

/-- Which letters a text is written in. -/
inductive LetterCase where
  | upper
  | lower
  deriving DecidableEq, Repr, Inhabited

/-- The text in the letters. -/
def LetterCase.apply : LetterCase → String → String
  | upper => Text.toUpper
  | lower => Text.toLower

/-- The name in settings. -/
def LetterCase.name : LetterCase → String
  | upper => "upper"
  | lower => "lower"

/-- The settings of a modifier. -/
inductive ModifierSettings where
  | sequential (numbering : Numbering)
  | hash (settings : HashSettings)
  | mac (settings : MacSettings)
  | textCase (letters : LetterCase)
  deriving DecidableEq, Repr

/-- The name of the kind. -/
def ModifierSettings.kind : ModifierSettings → String
  | sequential _ => "sequential"
  | hash _ => "hash"
  | mac _ => "mac"
  | textCase _ => "text_case"

/-- Why modifiers cannot be put together. -/
inductive ModifierError where
  | indexOutOfRange (index length : Nat)
  | invalid (reason : String)
  deriving DecidableEq, Repr

/-- The error in words. -/
def ModifierError.message : ModifierError → String
  | indexOutOfRange i n =>
    "modifier index " ++ toString i ++ " out of range (len " ++ toString n ++ ")"
  | invalid reason => "invalid modifier configuration: " ++ reason

/-- A modifier at work. -/
inductive Modifier where
  | sequential (counter : Counter)
  | hash (settings : HashSettings)
  | mac (settings : MacSettings)
  | textCase (letters : LetterCase)
  deriving DecidableEq, Repr

namespace Modifier

/-- The modifier of the settings. -/
def ofSettings : ModifierSettings → Except ModifierError Modifier
  | .sequential numbering => .ok (sequential (.start numbering))
  | .hash settings => .ok (hash settings)
  | .mac settings =>
    if settings.key.bytes.isEmpty then .error (.invalid "mac key is empty") else .ok (mac settings)
  | .textCase letters => .ok (textCase letters)

/-- The name of the kind. -/
def name : Modifier → String
  | sequential _ => "sequential"
  | hash _ => "hash"
  | mac _ => "mac"
  | textCase _ => "text_case"

/-- The changed message, and the modifier after it. -/
def apply (modifier : Modifier) (m : Message) : Message × Modifier :=
  match modifier with
  | sequential counter =>
    let (body, counter) := counter.number m.body
    ({ m with body }, sequential counter)
  | hash settings => (settings.signer.sign m, modifier)
  | mac settings => (settings.signer.sign m, modifier)
  | textCase letters => ({ m with body := letters.apply m.body }, modifier)

/-- The message before the change, if the message can have come from it. -/
def strip? (modifier : Modifier) (m : Message) : Option Message :=
  match modifier with
  | sequential counter => (counter.numbering.strip? m.body).map fun body => { m with body }
  | hash settings => settings.signer.strip? m
  | mac settings => settings.signer.strip? m
  | textCase _ => some m

/-- Can the message have come from the modifier? -/
def verify (modifier : Modifier) (m : Message) : Bool := (modifier.strip? m).isSome

end Modifier

end Syslog
