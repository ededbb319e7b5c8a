/-!
# Scripts

What the surroundings answer is given as a script: the answers that come first, and the one that
comes ever after. A statement about all scripts is a statement about all that the surroundings can
do.
-/

namespace Syslog

/-- Answers that are given one by one. -/
structure Script (α : Type) where
  upcoming : List α := []
  afterwards : α
  deriving DecidableEq, Repr, Inhabited

namespace Script

variable {α : Type}

/-- The script that always gives one answer. -/
def always (a : α) : Script α := { afterwards := a }

/-- The next answer, and the script after it. -/
def next (s : Script α) : α × Script α :=
  match s.upcoming with
  | a :: rest => (a, { s with upcoming := rest })
  | [] => (s.afterwards, s)

end Script

end Syslog
