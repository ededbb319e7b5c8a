import Syslog.Search

/-!
# Byte strings

A byte string is a list of bytes. What the wire asks of it, beside the search for markers and
delimiters, is to leave out what ends a line or a datagram.
-/

namespace Syslog

/-- A byte string. -/
abbrev Bytes := List UInt8

namespace Bytes

/-- The carriage return. -/
def carriageReturn : UInt8 := 0x0d

/-- The byte string without one trailing carriage return. -/
def dropReturn (bytes : Bytes) : Bytes :=
  if bytes.getLast? == some carriageReturn then bytes.dropLast else bytes

/-- A datagram without what ends it: zero bytes, then one line feed, then one carriage return, which
counts only before a line feed. -/
def dropEnd (bytes : Bytes) : Bytes :=
  match bytes.reverse.dropWhile (· == 0) with
  | 0x0a :: 0x0d :: rest => rest.reverse
  | 0x0a :: rest => rest.reverse
  | rest => rest.reverse

end Bytes

end Syslog
