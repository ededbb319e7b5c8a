import Syslog.Server.Handler

/-!
# The journal of a server

What a server has counted, and the calls of handlers that it has made, in order.

* `callAll` calls every handler in turn. It tells whether all calls have ended: after one that does
  not, no other is made.
* The number of active sessions is what was opened and has not been closed.
-/

namespace Syslog

/-- What a server has counted. -/
structure ServerCounts where
  opened : Nat := 0
  closed : Nat := 0
  rejected : Nat := 0
  frames : Nat := 0
  bytes : Nat := 0
  oversized : Nat := 0
  handlerErrors : Nat := 0
  errors : Nat := 0
  deriving DecidableEq, Repr, Inhabited

/-- How many sessions are open. -/
def ServerCounts.active (c : ServerCounts) : Nat := c.opened - c.closed

/-- Counts and calls. -/
structure Journal where
  counts : ServerCounts := {}
  calls : List CallRecord := []

namespace Journal

/-! ## 1. Counting -/

/-- A session was opened. -/
def noteOpened (j : Journal) : Journal := { j with counts.opened := j.counts.opened + 1 }

/-- A session was closed. -/
def noteClosed (j : Journal) : Journal := { j with counts.closed := j.counts.closed + 1 }

/-- A connection was rejected. -/
def noteRejected (j : Journal) : Journal := { j with counts.rejected := j.counts.rejected + 1 }

/-- A message of so many bytes has come. -/
def noteFrame (j : Journal) (size : Nat) : Journal :=
  { j with
    counts.frames := j.counts.frames + 1
    counts.bytes := j.counts.bytes + size }

/-- A message over the limit has come. -/
def noteOversized (j : Journal) : Journal :=
  { j with counts.oversized := j.counts.oversized + 1 }

/-- A call of a handler has failed. -/
def noteHandlerError (j : Journal) : Journal :=
  { j with counts.handlerErrors := j.counts.handlerErrors + 1 }

/-- A connection has failed. -/
def noteError (j : Journal) : Journal := { j with counts.errors := j.counts.errors + 1 }

/-! ## 2. Calling -/

/-- A failure counts only in the call for an event. -/
def fails (conduct : Conduct) : Call → Bool
  | .event .. => conduct == .fails || conduct == .panics
  | _ => conduct == .panics

/-- Calls a handler, and tells whether the call has ended. -/
def call (j : Journal) (h : EventHandler) (c : Call) : Bool × Journal :=
  let conduct := h.conduct j.calls c
  let j := { j with calls := j.calls ++ [⟨h.name, c, conduct⟩] }
  (conduct != .hangs, if fails conduct c then j.noteHandlerError else j)

/-- Calls handlers in turn, and tells whether all calls have ended. -/
def callAll (j : Journal) (c : Call) : List EventHandler → Bool × Journal
  | [] => (true, j)
  | h :: rest =>
    let (ended, j) := j.call h c
    if ended then j.callAll c rest else (false, j)

end Journal

end Syslog
