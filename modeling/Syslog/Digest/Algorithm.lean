import Syslog.Digest.Hmac
import Syslog.Digest.Sha1
import Syslog.Digest.Sha2
import Syslog.Text.Case

/-!
# Digest algorithms

The digests and the keyed tags that a signature can use, with their names. A name is read without
regard to case, hyphens and underscores, and is not trimmed.
-/

namespace Syslog

/-- A digest without key. -/
inductive HashAlgorithm where
  | sha1
  | sha256
  | sha384
  | sha512
  deriving DecidableEq, Repr, Inhabited

/-- A digest with key. -/
inductive MacAlgorithm where
  | hmacSha1
  | hmacSha256
  | hmacSha512
  deriving DecidableEq, Repr, Inhabited

/-- The name without hyphens and underscores, in lower case. -/
def Digest.plainName (s : String) : String :=
  Text.lowerAscii (String.ofList (s.toList.filter fun c => c != '-' && c != '_'))

namespace HashAlgorithm

/-- The canonical name. -/
def name : HashAlgorithm → String
  | sha1 => "SHA1"
  | sha256 => "SHA256"
  | sha384 => "SHA384"
  | sha512 => "SHA512"

/-- The algorithm of a name. -/
def ofName? (s : String) : Option HashAlgorithm :=
  match Digest.plainName s with
  | "sha1" | "sha" | "sha160" => some sha1
  | "sha256" => some sha256
  | "sha384" => some sha384
  | "sha512" => some sha512
  | _ => none

/-- The digest of a message. -/
def digest : HashAlgorithm → Bytes → Bytes
  | sha1 => Digest.Sha1.digest
  | sha256 => Digest.Sha2.sha256
  | sha384 => Digest.Sha2.sha384
  | sha512 => Digest.Sha2.sha512

end HashAlgorithm

namespace MacAlgorithm

/-- The canonical name. -/
def name : MacAlgorithm → String
  | hmacSha1 => "HmacSHA1"
  | hmacSha256 => "HmacSHA256"
  | hmacSha512 => "HmacSHA512"

/-- The algorithm of a name. -/
def ofName? (s : String) : Option MacAlgorithm :=
  match Digest.plainName s with
  | "hmacsha1" => some hmacSha1
  | "hmacsha256" => some hmacSha256
  | "hmacsha512" => some hmacSha512
  | _ => none

/-- The tag of a message under a key. -/
def tag : MacAlgorithm → (key message : Bytes) → Bytes
  | hmacSha1 => Digest.hmac Digest.Sha1.digest 64
  | hmacSha256 => Digest.hmac Digest.Sha2.sha256 64
  | hmacSha512 => Digest.hmac Digest.Sha2.sha512 128

end MacAlgorithm

end Syslog
