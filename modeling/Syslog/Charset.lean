import Syslog.Text.Blank
import Syslog.Text.Case
import Syslog.Text.Utf8

/-!
# Charsets

How the text of a message is written as bytes. Writing replaces a character that the charset lacks
by a question mark; reading replaces bytes that the charset lacks by the replacement character.
Neither fails.
-/

namespace Syslog

/-- The encodings in use between syslog peers. -/
inductive Charset where
  | utf8
  | ascii
  | latin1
  deriving DecidableEq, Repr, Inhabited

namespace Charset

/-- The canonical name. -/
def name : Charset → String
  | utf8 => "UTF-8"
  | ascii => "US-ASCII"
  | latin1 => "ISO-8859-1"

/-- The charset that a text names. -/
def ofText? (s : String) : Option Charset :=
  match Text.lowerAscii (Text.trim s) with
  | "utf-8" | "utf8" => some utf8
  | "us-ascii" | "ascii" => some ascii
  | "iso-8859-1" | "latin1" | "latin-1" => some latin1
  | _ => none

/-- One byte a character, with a question mark for those at or above `size`. -/
def encodeBelow (size : Nat) (s : String) : Bytes :=
  s.toList.map fun c => if c.toNat < size then UInt8.ofNat c.toNat else 0x3f

/-- The text as bytes. -/
def encode : Charset → String → Bytes
  | utf8, s => Text.Utf8.encode s
  | ascii, s => encodeBelow 128 s
  | latin1, s => encodeBelow 256 s

/-- The bytes as text. -/
def decode : Charset → Bytes → String
  | utf8, bytes => Text.Utf8.decode bytes
  | ascii, bytes =>
    String.ofList (bytes.map fun b =>
      if b.toNat < 128 then Char.ofNat b.toNat else Text.Utf8.replacement)
  | latin1, bytes => String.ofList (bytes.map fun b => Char.ofNat b.toNat)

end Charset

end Syslog
