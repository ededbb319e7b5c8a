import Syslog.Bytes

/-!
# HMAC

A keyed tag from any digest: the key, cut by the digest if it is longer than a block, is filled to
a block and masked in two ways; the tag is the digest over the outer mask and the digest over the
inner mask and the message.
-/

namespace Syslog.Digest

/-- The tag of a message under a key, over a digest with blocks of the given size. -/
def hmac (digest : Bytes → Bytes) (block : Nat) (key message : Bytes) : Bytes :=
  let short := if key.length > block then digest key else key
  let filled := short ++ List.replicate (block - short.length) 0
  let inner := filled.map (· ^^^ 0x36)
  let outer := filled.map (· ^^^ 0x5c)
  digest (outer ++ digest (inner ++ message))

end Syslog.Digest
