import Syslog.Bytes

/-!
# Base64

The standard alphabet with padding. Reading is strict: the length is a multiple of four, padding
stands where it must and nowhere else, and unused bits are zero, so each byte string has one
written form.
-/

namespace Syslog.Text.Base64

/-- The 64 digits. -/
def alphabet : List Char :=
  "ABCDEFGHIJKLMNOPQRSTUVWXYZabcdefghijklmnopqrstuvwxyz0123456789+/".toList

/-- The digit of a number below 64. -/
def digit (n : Nat) : Char := alphabet.getD n 'A'

/-- The number that a digit stands for. -/
def value? (c : Char) : Option Nat :=
  let n := c.toNat
  if 'A' ≤ c && c ≤ 'Z' then some (n - 65)
  else if 'a' ≤ c && c ≤ 'z' then some (n - 71)
  else if '0' ≤ c && c ≤ '9' then some (n + 4)
  else if c == '+' then some 62
  else if c == '/' then some 63
  else none

/-- The bytes as digits. -/
def encode : Bytes → List Char
  | [] => []
  | [a] => [digit (a.toNat / 4), digit (a.toNat % 4 * 16), '=', '=']
  | [a, b] =>
    [digit (a.toNat / 4), digit (a.toNat % 4 * 16 + b.toNat / 16), digit (b.toNat % 16 * 4), '=']
  | a :: b :: c :: rest =>
    digit (a.toNat / 4) :: digit (a.toNat % 4 * 16 + b.toNat / 16) ::
      digit (b.toNat % 16 * 4 + c.toNat / 64) :: digit (c.toNat % 64) :: encode rest

/-- The bytes of the last four digits, where padding may stand. -/
def decodeLast (w x y z : Char) : Option Bytes := do
  let p ← value? w
  let q ← value? x
  if y == '=' then
    if z == '=' && q % 16 == 0 then some [UInt8.ofNat (p * 4 + q / 16)] else none
  else
    let r ← value? y
    if z == '=' then
      if r % 4 == 0 then
        some [UInt8.ofNat (p * 4 + q / 16), UInt8.ofNat (q % 16 * 16 + r / 4)]
      else none
    else
      let s ← value? z
      some [UInt8.ofNat (p * 4 + q / 16), UInt8.ofNat (q % 16 * 16 + r / 4),
        UInt8.ofNat (r % 4 * 64 + s)]

/-- The bytes that the digits write. -/
def decode : List Char → Option Bytes
  | [] => some []
  | [w, x, y, z] => decodeLast w x y z
  | w :: x :: y :: z :: rest => do
    let p ← value? w
    let q ← value? x
    let r ← value? y
    let s ← value? z
    let tail ← decode rest
    some (UInt8.ofNat (p * 4 + q / 16) :: UInt8.ofNat (q % 16 * 16 + r / 4) ::
      UInt8.ofNat (r % 4 * 64 + s) :: tail)
  | _ => none

example : encode [0x66, 0x6f, 0x6f, 0x62] = "Zm9vYg==".toList := by decide +kernel
example : decode "Zm9vYh==".toList = none := by decide +kernel

end Syslog.Text.Base64
