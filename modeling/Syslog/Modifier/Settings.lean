import Syslog.Configuration.Error
import Syslog.Modifier
import Syslog.Text.Hex

/-!
# Settings of modifiers

How the settings of a modifier are read from a document, and what they must satisfy: the bounds of a
numbering are in order, and a key is not empty.
-/

namespace Syslog

/-- The digest that a text names. -/
def HashAlgorithm.read (s : String) : Except ConfigError HashAlgorithm :=
  (HashAlgorithm.ofName? s).elim
    (.error (.invalidValue "modifier" "hash" "algorithm"
      ("unsupported digest " ++ ConfigError.quoted s))) .ok

/-- The digest with key that a text names. -/
def MacAlgorithm.read (s : String) : Except ConfigError MacAlgorithm :=
  (MacAlgorithm.ofName? s).elim
    (.error (.invalidValue "modifier" "mac" "algorithm"
      ("unsupported MAC " ++ ConfigError.quoted s))) .ok

/-- The key that a text writes in hexadecimal. -/
def MacKey.read (s : String) : Except ConfigError MacKey :=
  match Text.Hex.decode (Text.trim s) with
  | .ok bytes => .ok ⟨bytes⟩
  | .error fault => .error (.invalidValue "modifier" "mac" "key" fault.message)

open Decode

namespace Numbering

/-- The parts of a numbering. -/
def parts : List (FieldDecoder Numbering) :=
  [.of "first" natural64 fun x s => { s with first := x },
    .of "last" natural64 fun x s => { s with last := x },
    .of "use_padding" boolean fun x s => { s with usePadding := x },
    .of "pad_char" char fun x s => { s with padChar := x }]

/-- Reads a numbering. -/
def decoder : Decoder Numbering := fields "struct SequentialConfig" parts {}

instance : FromDocument Numbering := ⟨decoder⟩

end Numbering

namespace HashSettings

/-- The parts of the settings. -/
def parts : List (FieldDecoder HashSettings) :=
  [.of "algorithm" (parsed HashAlgorithm.read ConfigError.message)
      fun x s => { s with algorithm := x },
    .of "include_ident" boolean fun x s => { s with includeIdent := x },
    .of "prefix" text fun x s => { s with opening := x },
    .of "suffix" text fun x s => { s with closing := x }]

/-- Reads the settings. -/
def decoder : Decoder HashSettings := fields "struct HashConfig" parts {}

instance : FromDocument HashSettings := ⟨decoder⟩

end HashSettings

namespace MacSettings

/-- The parts of the settings. -/
def parts : List (FieldDecoder MacSettings) :=
  [.of "algorithm" (parsed MacAlgorithm.read ConfigError.message)
      fun x s => { s with algorithm := x },
    .of "key" (parsed MacKey.read ConfigError.message) fun x s => { s with key := x },
    .of "include_ident" boolean fun x s => { s with includeIdent := x },
    .of "prefix" text fun x s => { s with opening := x },
    .of "suffix" text fun x s => { s with closing := x }]

/-- Reads the settings. -/
def decoder : Decoder MacSettings := fields "struct MacConfig" parts {}

instance : FromDocument MacSettings := ⟨decoder⟩

end MacSettings

/-- Reads the choice of letters. -/
def LetterCase.decoder : Decoder LetterCase :=
  fields "struct TextCaseConfig"
    [.of "case" (Decode.name [("upper", upper), ("lower", lower)]) fun x _ => x] .upper

namespace ModifierSettings

/-- Reads the settings of a modifier. -/
def decoder : Decoder ModifierSettings :=
  tagged "internally tagged enum ModifierConfig"
    [("sequential", fun d => return sequential (← Numbering.decoder d)),
      ("hash", fun d => return hash (← HashSettings.decoder d)),
      ("mac", fun d => return mac (← MacSettings.decoder d)),
      ("text_case", fun d => return textCase (← LetterCase.decoder d))]

instance : FromDocument ModifierSettings := ⟨decoder⟩

/-- What the settings must satisfy, on behalf of the sender `owner`. -/
def check (owner : String) : ModifierSettings → Except ConfigError Unit
  | sequential n =>
    if n.first > n.last then
      .error (.invalidValue "modifier" owner "first"
        ("first (" ++ toString n.first ++ ") exceeds last (" ++ toString n.last ++ ")"))
    else .ok ()
  | mac s =>
    if s.key.bytes.isEmpty then .error (.missingField "modifier" owner "key") else .ok ()
  | hash _ | textCase _ => .ok ()

end ModifierSettings

end Syslog
