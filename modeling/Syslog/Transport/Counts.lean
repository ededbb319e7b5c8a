/-!
# Counts of a transport

What a transport has sent, and how often it failed.
-/

namespace Syslog

/-- What a transport has counted. -/
structure TransportCounts where
  sent : Nat := 0
  bytes : Nat := 0
  fragments : Nat := 0
  errors : Nat := 0
  connects : Nat := 0
  deriving DecidableEq, Repr, Inhabited

namespace TransportCounts

/-- A message of so many bytes was sent. -/
def noteSent (c : TransportCounts) (size : Nat) : TransportCounts :=
  { c with sent := c.sent + 1, bytes := c.bytes + size }

/-- A write has failed. -/
def noteError (c : TransportCounts) : TransportCounts := { c with errors := c.errors + 1 }

/-- A message was split into so many datagrams. -/
def noteFragments (c : TransportCounts) (count : Nat) : TransportCounts :=
  if count > 1 then { c with fragments := c.fragments + count } else c

/-- A connection was opened. -/
def noteConnect (c : TransportCounts) : TransportCounts := { c with connects := c.connects + 1 }

end TransportCounts

end Syslog
