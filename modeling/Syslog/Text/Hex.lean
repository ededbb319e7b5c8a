import Syslog.Text.Quoted
import Syslog.Text.Utf8

/-!
# Hexadecimal

Two digits a byte, written in small letters and read in either case.
-/

namespace Syslog.Text.Hex

/-- Why a text is not hexadecimal. -/
inductive Fault where
  | oddLength
  | badDigit (digit : Char) (position : Nat)
  deriving DecidableEq, Repr

/-- The fault in words. -/
def Fault.message : Fault → String
  | .oddLength => "Odd number of digits"
  | .badDigit c i => "Invalid character " ++ Quoted.char c ++ " at position " ++ toString i

/-- The digit of a number below sixteen. -/
def digit (n : Nat) : Char := Nat.digitChar n

/-- The bytes as text. -/
def encode (bytes : Bytes) : String :=
  String.ofList (bytes.flatMap fun b => [digit (b.toNat / 16), digit (b.toNat % 16)])

/-- The value of a digit, given as a byte. -/
def value? (b : UInt8) : Option Nat :=
  let n := b.toNat
  if 0x30 ≤ n && n ≤ 0x39 then some (n - 0x30)
  else if 0x41 ≤ n && n ≤ 0x46 then some (n - 0x41 + 10)
  else if 0x61 ≤ n && n ≤ 0x66 then some (n - 0x61 + 10)
  else none

/-- The value of a digit. -/
def charValue? (c : Char) : Option Nat := if c.toNat < 0x80 then value? c.val.toUInt8 else none

/-- The value of the digit at a position. -/
def digitAt (b : UInt8) (position : Nat) : Except Fault Nat :=
  match value? b with
  | some v => .ok v
  | none => .error (.badDigit (Char.ofNat b.toNat) position)

/-- Reads pairs of digits, of which the first stands at `position`. -/
def decodeFrom (position : Nat) : Bytes → Except Fault Bytes
  | high :: low :: rest => do
    let h ← digitAt high position
    let l ← digitAt low (position + 1)
    return UInt8.ofNat (h * 16 + l) :: (← decodeFrom (position + 2) rest)
  | _ => .ok []

/-- The bytes that a text writes. An odd length is reported before any digit. -/
def decode (s : String) : Except Fault Bytes :=
  let digits := Utf8.encode s
  if digits.length % 2 == 1 then .error .oddLength else decodeFrom 0 digits

end Syslog.Text.Hex
