import Syslog.Bytes

/-!
# Blocks of a digest

What the digests share. A message is closed by one bit, filled with zeros and ended by its length
in bits, so that it fills whole blocks; each block is read as words, most significant byte first.
-/

namespace Syslog.Digest

/-- The lowest `count` bytes of a number, most significant first. -/
def bigEndian (count n : Nat) : Bytes :=
  (List.range count).map fun i => UInt8.ofNat (n >>> (8 * (count - 1 - i)))

/-- The number that bytes write, most significant first. -/
def ofBigEndian (bytes : Bytes) : Nat := bytes.foldl (fun n b => n * 256 + b.toNat) 0

/-- The message filled up to whole blocks of `block` bytes, of which the last ends with the length
of the message in bits as a number of `tail` bytes. -/
def pad (block tail : Nat) (message : Bytes) : Bytes :=
  let filled := (message.length + 1 + tail) % block
  let zeros := if filled == 0 then 0 else block - filled
  message ++ 0x80 :: List.replicate zeros 0 ++ bigEndian tail (message.length * 8)

/-- The whole pieces of `size` elements. -/
def pieces {α : Type} (size : Nat) (xs : List α) : List (List α) :=
  (List.range (xs.length / size)).map fun i => (xs.drop (i * size)).take size

/-- The words of a block, of `width` bytes each. -/
def words (width : Nat) (block : Bytes) : List Nat := (pieces width block).map ofBigEndian

end Syslog.Digest
