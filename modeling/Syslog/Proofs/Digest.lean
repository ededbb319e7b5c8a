import Syslog.Digest.Algorithm

/-!
# Sizes of digests

Every digest of an algorithm has the same number of bytes, whatever the message and the key are.

* `HashAlgorithm.size`, `MacAlgorithm.size`: the numbers;
* `HashAlgorithm.length_digest`, `MacAlgorithm.length_tag`: the digests have them.
-/

namespace Syslog

namespace Digest

@[simp] theorem length_bigEndian (count n : Nat) : (bigEndian count n).length = count := by
  rw [bigEndian, List.length_map, List.length_range]

theorem Sha1.length_digest (message : Bytes) : (Sha1.digest message).length = 20 := by
  simp [Sha1.digest]

theorem Sha2.length_sha256 (message : Bytes) : (Sha2.sha256 message).length = 32 := by
  simp [Sha2.sha256, Sha2.State.toList]

theorem Sha2.length_run64 (start : Sha2.State UInt64) (message : Bytes) :
    (Sha2.run64 start message).length = 64 := by
  simp [Sha2.run64, Sha2.State.toList]

/-- The tag of a key is a digest. -/
theorem length_hmac {digest : Bytes → Bytes} {size : Nat}
    (each : ∀ message, (digest message).length = size) (block : Nat) (key message : Bytes) :
    (hmac digest block key message).length = size := by
  unfold hmac
  exact each _

end Digest

open Digest

/-- The number of bytes of a digest. -/
def HashAlgorithm.size : HashAlgorithm → Nat
  | sha1 => 20
  | sha256 => 32
  | sha384 => 48
  | sha512 => 64

theorem HashAlgorithm.length_digest (a : HashAlgorithm) (message : Bytes) :
    (a.digest message).length = a.size := by
  cases a with
  | sha1 => exact Sha1.length_digest message
  | sha256 => exact Sha2.length_sha256 message
  | sha384 =>
    refine (List.length_take ..).trans ?_
    rw [Sha2.length_run64]
    rfl
  | sha512 => exact Sha2.length_run64 _ message

/-- The number of bytes of a tag. -/
def MacAlgorithm.size : MacAlgorithm → Nat
  | hmacSha1 => 20
  | hmacSha256 => 32
  | hmacSha512 => 64

theorem MacAlgorithm.length_tag (a : MacAlgorithm) (key message : Bytes) :
    (a.tag key message).length = a.size := by
  cases a with
  | hmacSha1 => exact length_hmac Sha1.length_digest _ _ _
  | hmacSha256 => exact length_hmac Sha2.length_sha256 _ _ _
  | hmacSha512 => exact length_hmac (Sha2.length_run64 _) _ _ _

end Syslog
