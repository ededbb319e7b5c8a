import Syslog.Digest.Algorithm
import Syslog.Message
import Syslog.Search
import Syslog.Text.Base64
import Syslog.Text.Utf8

/-!
# Signatures

A signature is a digest over the text of a message, and over its ident where the settings say so. It
stands behind the text in Base64, between an opening and a closing mark.

* `Signer.sign` appends the signature; `Signer.strip?` takes it off if it is the signature of what
  is left, so only what was signed is stripped;
* `HashSettings` sign with a digest, `MacSettings` with a digest under a key; `MacKey` is the key,
  whose bytes are never shown.
-/

namespace Syslog

/-! ## 1. Signing and stripping -/

/-- Makes signatures. -/
structure Signer where
  /-- The digest of what is signed. -/
  tag : Bytes → Bytes
  includeIdent : Bool
  opening : String
  closing : String

namespace Signer

/-- What is signed: the ident, if it is included, and the text. -/
def input (s : Signer) (ident : Option String) (text : String) : Bytes :=
  (if s.includeIdent then Text.Utf8.encode (ident.getD "") else []) ++ Text.Utf8.encode text

/-- The digest over the ident of a message and a text. -/
def digest (s : Signer) (m : Message) (text : String) : Bytes := s.tag (s.input m.ident text)

/-- A text with a signature. -/
def append (s : Signer) (text : String) (tag : Bytes) : String :=
  text ++ s.opening ++ String.ofList (Text.Base64.encode tag) ++ s.closing

/-- A text and the signature behind its last opening mark. -/
def split? (s : Signer) (body : String) : Option (String × Bytes) := do
  let signed ← (s.closing.toList.reverse.isPrefixOf? body.toList.reverse).map List.reverse
  let (text, encoded) ← Search.splitLast? s.opening.toList signed
  let tag ← Text.Base64.decode encoded
  some (String.ofList text, tag)

/-- The message with its signature. -/
def sign (s : Signer) (m : Message) : Message :=
  { m with body := s.append m.body (s.digest m m.body) }

/-- The message without its signature, if that is the one that signing gives. -/
def strip? (s : Signer) (m : Message) : Option Message := do
  let (text, tag) ← s.split? m.body
  if s.digest m text == tag then some { m with body := text } else none

end Signer

/-! ## 2. The two kinds -/

/-- Signing with a digest. -/
structure HashSettings where
  algorithm : HashAlgorithm := .sha1
  includeIdent : Bool := true
  opening : String := " \x7b"
  closing : String := "\x7d"
  deriving DecidableEq, Repr, Inhabited

/-- The signer of the settings. -/
def HashSettings.signer (s : HashSettings) : Signer where
  tag := s.algorithm.digest
  includeIdent := s.includeIdent
  opening := s.opening
  closing := s.closing

/-- A secret key. -/
structure MacKey where
  bytes : Bytes := []
  deriving DecidableEq, Repr, Inhabited

/-- The key in words, which tell its length only. -/
def MacKey.describe (k : MacKey) : String :=
  "MacKey([redacted; " ++ toString k.bytes.length ++ " bytes])"

/-- Signing with a digest under a key. -/
structure MacSettings where
  algorithm : MacAlgorithm := .hmacSha256
  key : MacKey := {}
  includeIdent : Bool := true
  opening : String := " \x7b"
  closing : String := "\x7d"
  deriving DecidableEq, Repr, Inhabited

namespace MacSettings

/-- The signer of the settings. -/
def signer (s : MacSettings) : Signer where
  tag := s.algorithm.tag s.key.bytes
  includeIdent := s.includeIdent
  opening := s.opening
  closing := s.closing

/-- The algorithm as it is shown among the settings. -/
def algorithmWord : MacAlgorithm → String
  | .hmacSha1 => "HmacSha1"
  | .hmacSha256 => "HmacSha256"
  | .hmacSha512 => "HmacSha512"

/-- The settings in words, without the key. -/
def describe (s : MacSettings) : String :=
  "MacModifier \x7b algorithm: " ++ algorithmWord s.algorithm ++ ", include_ident: " ++
    (if s.includeIdent then "true" else "false") ++ ", .. \x7d"

end MacSettings

end Syslog
