import Syslog.Bytes

/-!
# UTF-8

* `encode` writes a text as bytes;
* `decode` reads any bytes as text: every longest piece that begins a character and cannot be
  completed becomes one replacement character, so nothing is refused.

A reader is between characters or inside one (`Partial`). Inside one it knows how many bytes are
missing, the bounds of the next one, and the value collected so far; the bounds leave out overlong
forms, surrogates and values past the last code point.
-/

namespace Syslog.Text.Utf8

/-- The character that stands for bytes that cannot be read. -/
def replacement : Char := '\ufffd'

/-- The text as bytes. -/
def encode (s : String) : Bytes := s.toList.flatMap String.utf8EncodeChar

/-- A character whose first bytes have been read. -/
structure Partial where
  /-- How many bytes are missing after the next one. -/
  missing : Nat
  /-- Bounds of the next byte. -/
  low : Nat
  high : Nat
  /-- The bits read so far. -/
  value : Nat

/-- What the first byte of a character of several bytes announces. -/
def Partial.ofLead? (b : Nat) : Option Partial :=
  if b < 0xc2 then none
  else if b < 0xe0 then some ⟨0, 0x80, 0xbf, b - 0xc0⟩
  else if b == 0xe0 then some ⟨1, 0xa0, 0xbf, 0⟩
  else if b == 0xed then some ⟨1, 0x80, 0x9f, 0xd⟩
  else if b < 0xf0 then some ⟨1, 0x80, 0xbf, b - 0xe0⟩
  else if b == 0xf0 then some ⟨2, 0x90, 0xbf, 0⟩
  else if b < 0xf4 then some ⟨2, 0x80, 0xbf, b - 0xf0⟩
  else if b == 0xf4 then some ⟨2, 0x80, 0x8f, 4⟩
  else none

/-- The byte as the first of a character: a finished character, or the state inside it. -/
def start (b : UInt8) : Option Char × Option Partial :=
  if b.toNat < 0x80 then (some (Char.ofNat b.toNat), none)
  else
    match Partial.ofLead? b.toNat with
    | some p => (none, some p)
    | none => (some replacement, none)

/-- One byte: the characters that it finishes, and the state after it. -/
def step (state : Option Partial) (b : UInt8) : List Char × Option Partial :=
  match state with
  | none =>
    let (c, next) := start b
    (c.toList, next)
  | some p =>
    if p.low ≤ b.toNat && b.toNat ≤ p.high then
      let value := p.value * 64 + (b.toNat - 0x80)
      match p.missing with
      | 0 => ([Char.ofNat value], none)
      | n + 1 => ([], some ⟨n, 0x80, 0xbf, value⟩)
    else
      let (c, next) := start b
      (replacement :: c.toList, next)

/-- The characters of the bytes, from a state. A character cut off at the end counts as one that
cannot be completed. -/
def decodeFrom (state : Option Partial) : Bytes → List Char
  | [] => if state.isSome then [replacement] else []
  | b :: bytes =>
    let (cs, next) := step state b
    cs ++ decodeFrom next bytes

/-- Any bytes as characters. -/
def decodeChars (bytes : Bytes) : List Char := decodeFrom none bytes

/-- Any bytes as text. -/
def decode (bytes : Bytes) : String := String.ofList (decodeChars bytes)

example : decode [0x61, 0xe2, 0x82, 0xac, 0xe2, 0x82, 0x62, 0xff] = "a€\ufffdb\ufffd" := by
  decide +kernel

end Syslog.Text.Utf8
