import Syslog.Digest.Block

/-!
# SHA-1

Blocks of 64 bytes, words of 32 bits, 80 rounds, a digest of 20 bytes.
-/

namespace Syslog.Digest.Sha1

/-- The chaining value. -/
structure State where
  a : UInt32
  b : UInt32
  c : UInt32
  d : UInt32
  e : UInt32

/-- Rotates a word to the left. -/
def rotate (x : UInt32) (n : UInt32) : UInt32 := (x <<< n) ||| (x >>> (32 - n))

/-- The value before the first block. -/
def initial : State := ⟨0x67452301, 0xefcdab89, 0x98badcfe, 0x10325476, 0xc3d2e1f0⟩

/-- The 80 words of a block's schedule. -/
def schedule (block : Bytes) : Array UInt32 :=
  (List.range' 16 64).foldl
    (fun w t =>
      w.push (rotate (w.getD (t - 3) 0 ^^^ w.getD (t - 8) 0 ^^^ w.getD (t - 14) 0 ^^^
        w.getD (t - 16) 0) 1))
    ((words 4 block).map UInt32.ofNat).toArray

/-- The mixing function and the constant of a round. -/
def mix (t : Nat) (s : State) : UInt32 × UInt32 :=
  if t < 20 then ((s.b &&& s.c) ||| ((~~~ s.b) &&& s.d), 0x5a827999)
  else if t < 40 then (s.b ^^^ s.c ^^^ s.d, 0x6ed9eba1)
  else if t < 60 then ((s.b &&& s.c) ||| (s.b &&& s.d) ||| (s.c &&& s.d), 0x8f1bbcdc)
  else (s.b ^^^ s.c ^^^ s.d, 0xca62c1d6)

/-- One round. -/
def round (w : Array UInt32) (s : State) (t : Nat) : State :=
  let (f, k) := mix t s
  ⟨rotate s.a 5 + f + s.e + k + w.getD t 0, s.a, rotate s.b 30, s.c, s.d⟩

/-- One block. -/
def compress (s : State) (block : Bytes) : State :=
  let r := (List.range 80).foldl (round (schedule block)) s
  ⟨s.a + r.a, s.b + r.b, s.c + r.c, s.d + r.d, s.e + r.e⟩

/-- The digest of a message. -/
def digest (message : Bytes) : Bytes :=
  let s := (pieces 64 (pad 64 8 message)).foldl compress initial
  [s.a, s.b, s.c, s.d, s.e].flatMap fun w => bigEndian 4 w.toNat

end Syslog.Digest.Sha1
