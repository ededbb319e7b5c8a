import Syslog.Digest.Block

/-!
# SHA-256, SHA-384 and SHA-512

One round function over two word widths. SHA-256 has words of 32 bits, blocks of 64 bytes and 64
rounds; SHA-512 has words of 64 bits, blocks of 128 bytes and 80 rounds; SHA-384 is SHA-512 from
another initial value, cut to 48 bytes.
-/

namespace Syslog.Digest.Sha2

/-- The chaining value, over words of one width. -/
structure State (Word : Type) where
  a : Word
  b : Word
  c : Word
  d : Word
  e : Word
  f : Word
  g : Word
  h : Word

/-- The words of the state in order. -/
def State.toList {Word : Type} (s : State Word) : List Word :=
  [s.a, s.b, s.c, s.d, s.e, s.f, s.g, s.h]

/-- The sum of two states, word by word. -/
def State.add {Word : Type} [Add Word] (s t : State Word) : State Word :=
  ⟨s.a + t.a, s.b + t.b, s.c + t.c, s.d + t.d, s.e + t.e, s.f + t.f, s.g + t.g, s.h + t.h⟩

/-- What the width decides: the four rotation sums and the round constants. -/
structure Kit (Word : Type) where
  sumA : Word → Word
  sumE : Word → Word
  sigma0 : Word → Word
  sigma1 : Word → Word
  constants : List Word

section Rounds

variable {Word : Type} [Add Word] [AndOp Word] [XorOp Word] [Complement Word]

/-- The schedule of a block: its sixteen words and one more for every further round. -/
def schedule (kit : Kit Word) (zero : Word) (block : List Word) : Array Word :=
  (List.range' 16 (kit.constants.length - 16)).foldl
    (fun w t =>
      w.push (kit.sigma1 (w.getD (t - 2) zero) + w.getD (t - 7) zero +
        kit.sigma0 (w.getD (t - 15) zero) + w.getD (t - 16) zero))
    block.toArray

/-- One round, with its constant and its word of the schedule. -/
def round (kit : Kit Word) (s : State Word) (kw : Word × Word) : State Word :=
  let choice := (s.e &&& s.f) ^^^ ((~~~ s.e) &&& s.g)
  let majority := (s.a &&& s.b) ^^^ (s.a &&& s.c) ^^^ (s.b &&& s.c)
  let t1 := s.h + kit.sumE s.e + choice + kw.1 + kw.2
  let t2 := kit.sumA s.a + majority
  ⟨t1 + t2, s.a, s.b, s.c, s.d + t1, s.e, s.f, s.g⟩

/-- One block. -/
def compress (kit : Kit Word) (zero : Word) (s : State Word) (block : List Word) : State Word :=
  s.add ((kit.constants.zip (schedule kit zero block).toList).foldl (round kit) s)

end Rounds

/-! ## Words of 32 bits -/

/-- Rotates a word of 32 bits to the right. -/
def rotate32 (x : UInt32) (n : UInt32) : UInt32 := (x >>> n) ||| (x <<< (32 - n))

/-- The kit of SHA-256. -/
def kit32 : Kit UInt32 where
  sumA x := rotate32 x 2 ^^^ rotate32 x 13 ^^^ rotate32 x 22
  sumE x := rotate32 x 6 ^^^ rotate32 x 11 ^^^ rotate32 x 25
  sigma0 x := rotate32 x 7 ^^^ rotate32 x 18 ^^^ (x >>> 3)
  sigma1 x := rotate32 x 17 ^^^ rotate32 x 19 ^^^ (x >>> 10)
  constants := [
    0x428a2f98, 0x71374491, 0xb5c0fbcf, 0xe9b5dba5, 0x3956c25b, 0x59f111f1,
    0x923f82a4, 0xab1c5ed5, 0xd807aa98, 0x12835b01, 0x243185be, 0x550c7dc3,
    0x72be5d74, 0x80deb1fe, 0x9bdc06a7, 0xc19bf174, 0xe49b69c1, 0xefbe4786,
    0x0fc19dc6, 0x240ca1cc, 0x2de92c6f, 0x4a7484aa, 0x5cb0a9dc, 0x76f988da,
    0x983e5152, 0xa831c66d, 0xb00327c8, 0xbf597fc7, 0xc6e00bf3, 0xd5a79147,
    0x06ca6351, 0x14292967, 0x27b70a85, 0x2e1b2138, 0x4d2c6dfc, 0x53380d13,
    0x650a7354, 0x766a0abb, 0x81c2c92e, 0x92722c85, 0xa2bfe8a1, 0xa81a664b,
    0xc24b8b70, 0xc76c51a3, 0xd192e819, 0xd6990624, 0xf40e3585, 0x106aa070,
    0x19a4c116, 0x1e376c08, 0x2748774c, 0x34b0bcb5, 0x391c0cb3, 0x4ed8aa4a,
    0x5b9cca4f, 0x682e6ff3, 0x748f82ee, 0x78a5636f, 0x84c87814, 0x8cc70208,
    0x90befffa, 0xa4506ceb, 0xbef9a3f7, 0xc67178f2]

/-- The initial value of SHA-256. -/
def initial256 : State UInt32 :=
  ⟨0x6a09e667, 0xbb67ae85, 0x3c6ef372, 0xa54ff53a,
    0x510e527f, 0x9b05688c, 0x1f83d9ab, 0x5be0cd19⟩

/-- The SHA-256 digest of a message. -/
def sha256 (message : Bytes) : Bytes :=
  let blocks := (pieces 64 (pad 64 8 message)).map fun b => (words 4 b).map UInt32.ofNat
  (blocks.foldl (compress kit32 0) initial256).toList.flatMap fun w => bigEndian 4 w.toNat

/-! ## Words of 64 bits -/

/-- Rotates a word of 64 bits to the right. -/
def rotate64 (x : UInt64) (n : UInt64) : UInt64 := (x >>> n) ||| (x <<< (64 - n))

/-- The kit of SHA-512. -/
def kit64 : Kit UInt64 where
  sumA x := rotate64 x 28 ^^^ rotate64 x 34 ^^^ rotate64 x 39
  sumE x := rotate64 x 14 ^^^ rotate64 x 18 ^^^ rotate64 x 41
  sigma0 x := rotate64 x 1 ^^^ rotate64 x 8 ^^^ (x >>> 7)
  sigma1 x := rotate64 x 19 ^^^ rotate64 x 61 ^^^ (x >>> 6)
  constants := [
    0x428a2f98d728ae22, 0x7137449123ef65cd, 0xb5c0fbcfec4d3b2f, 0xe9b5dba58189dbbc,
    0x3956c25bf348b538, 0x59f111f1b605d019, 0x923f82a4af194f9b, 0xab1c5ed5da6d8118,
    0xd807aa98a3030242, 0x12835b0145706fbe, 0x243185be4ee4b28c, 0x550c7dc3d5ffb4e2,
    0x72be5d74f27b896f, 0x80deb1fe3b1696b1, 0x9bdc06a725c71235, 0xc19bf174cf692694,
    0xe49b69c19ef14ad2, 0xefbe4786384f25e3, 0x0fc19dc68b8cd5b5, 0x240ca1cc77ac9c65,
    0x2de92c6f592b0275, 0x4a7484aa6ea6e483, 0x5cb0a9dcbd41fbd4, 0x76f988da831153b5,
    0x983e5152ee66dfab, 0xa831c66d2db43210, 0xb00327c898fb213f, 0xbf597fc7beef0ee4,
    0xc6e00bf33da88fc2, 0xd5a79147930aa725, 0x06ca6351e003826f, 0x142929670a0e6e70,
    0x27b70a8546d22ffc, 0x2e1b21385c26c926, 0x4d2c6dfc5ac42aed, 0x53380d139d95b3df,
    0x650a73548baf63de, 0x766a0abb3c77b2a8, 0x81c2c92e47edaee6, 0x92722c851482353b,
    0xa2bfe8a14cf10364, 0xa81a664bbc423001, 0xc24b8b70d0f89791, 0xc76c51a30654be30,
    0xd192e819d6ef5218, 0xd69906245565a910, 0xf40e35855771202a, 0x106aa07032bbd1b8,
    0x19a4c116b8d2d0c8, 0x1e376c085141ab53, 0x2748774cdf8eeb99, 0x34b0bcb5e19b48a8,
    0x391c0cb3c5c95a63, 0x4ed8aa4ae3418acb, 0x5b9cca4f7763e373, 0x682e6ff3d6b2b8a3,
    0x748f82ee5defb2fc, 0x78a5636f43172f60, 0x84c87814a1f0ab72, 0x8cc702081a6439ec,
    0x90befffa23631e28, 0xa4506cebde82bde9, 0xbef9a3f7b2c67915, 0xc67178f2e372532b,
    0xca273eceea26619c, 0xd186b8c721c0c207, 0xeada7dd6cde0eb1e, 0xf57d4f7fee6ed178,
    0x06f067aa72176fba, 0x0a637dc5a2c898a6, 0x113f9804bef90dae, 0x1b710b35131c471b,
    0x28db77f523047d84, 0x32caab7b40c72493, 0x3c9ebe0a15c9bebc, 0x431d67c49c100d4c,
    0x4cc5d4becb3e42b6, 0x597f299cfc657e2a, 0x5fcb6fab3ad6faec, 0x6c44198c4a475817]

/-- The initial value of SHA-384. -/
def initial384 : State UInt64 :=
  ⟨0xcbbb9d5dc1059ed8, 0x629a292a367cd507, 0x9159015a3070dd17, 0x152fecd8f70e5939,
    0x67332667ffc00b31, 0x8eb44a8768581511, 0xdb0c2e0d64f98fa7, 0x47b5481dbefa4fa4⟩

/-- The initial value of SHA-512. -/
def initial512 : State UInt64 :=
  ⟨0x6a09e667f3bcc908, 0xbb67ae8584caa73b, 0x3c6ef372fe94f82b, 0xa54ff53a5f1d36f1,
    0x510e527fade682d1, 0x9b05688c2b3e6c1f, 0x1f83d9abfb41bd6b, 0x5be0cd19137e2179⟩

/-- The eight words after the last block of a message, as bytes. -/
def run64 (start : State UInt64) (message : Bytes) : Bytes :=
  let blocks := (pieces 128 (pad 128 16 message)).map fun b => (words 8 b).map UInt64.ofNat
  (blocks.foldl (compress kit64 0) start).toList.flatMap fun w => bigEndian 8 w.toNat

/-- The SHA-384 digest of a message. -/
def sha384 (message : Bytes) : Bytes := (run64 initial384 message).take 48

/-- The SHA-512 digest of a message. -/
def sha512 (message : Bytes) : Bytes := run64 initial512 message

end Syslog.Digest.Sha2
