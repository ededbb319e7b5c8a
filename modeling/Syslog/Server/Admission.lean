import Syslog.Permits
import Syslog.Server.Settings

/-!
# Admission

A server that admits so many sessions at a time has a permit for each of them. Whoever needs a
permit when none is free is turned away at once, or waits for one to come back, for a limited time:
that is the policy. A limit of 0 is none, and one of more permits than can be counted is not
possible.
-/

namespace Syslog

/-- The permits of a server. -/
structure Admission where
  limit : Nat
  policy : OverflowPolicy
  blockTimeout : Time.Duration
  /-- How many permits are out. -/
  held : Nat := 0
  deriving DecidableEq, Inhabited

namespace Admission

/-- The permits of settings, none of them out. -/
def unused (s : ServerSettings) : Admission :=
  { limit := s.maxActiveSessions, policy := s.overflow, blockTimeout := s.blockTimeout }

/-- Makes the permits that the settings ask for, unless they are more than can be counted. -/
def ofSettings? (s : ServerSettings) : Option Admission :=
  if Permits.areCountable s.maxActiveSessions then some (unused s) else none

/-- Is there a limit? -/
def isBounded (a : Admission) : Bool := a.limit > 0

/-- How many permits are free; without a limit there is no such number. -/
def available? (a : Admission) : Option Nat :=
  if a.isBounded then some (a.limit - a.held) else none

/-- Is a permit needed before a connection is accepted? -/
def waitsBeforeAccept (a : Admission) : Bool := a.isBounded && a.policy == .block

/-- Takes a permit, if one is free. -/
def take? (a : Admission) : Option Admission :=
  if a.isBounded && a.held ≥ a.limit then none else some { a with held := a.held + 1 }

/-- A permit comes back. -/
def give (a : Admission) : Admission := { a with held := a.held - 1 }

end Admission

end Syslog
