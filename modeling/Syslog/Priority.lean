import Syslog.Facility
import Syslog.Severity

/-!
# Priorities

A priority is a facility and a severity in one number, eight severities to a facility. Main
statement: the number of a priority reads back as that priority (`ofCode?_code`).
-/

namespace Syslog

/-- A facility and a severity. -/
structure Priority where
  facility : Facility
  severity : Severity
  deriving DecidableEq, Repr, Inhabited

namespace Priority

/-- The largest number of a priority. -/
def maxCode : Nat := 191

/-- The priority as a number. -/
def code (p : Priority) : Nat := p.facility.code * 8 + p.severity.code

/-- The priority with a number. -/
def ofCode? (n : Nat) : Option Priority := do
  let facility ← Facility.ofCode? (n / 8)
  let severity ← Severity.ofCode? (n % 8)
  return ⟨facility, severity⟩

theorem code_le (p : Priority) : p.code ≤ maxCode := by
  have hf := p.facility.code_lt
  have hs := p.severity.code_lt
  simp only [code, maxCode]
  omega

/-- **A priority reads back from its number.** -/
theorem ofCode?_code (p : Priority) : ofCode? p.code = some p := by
  have hs := p.severity.code_lt
  have hq : p.code / 8 = p.facility.code := by simp only [code]; omega
  have hr : p.code % 8 = p.severity.code := by simp only [code]; omega
  simp [ofCode?, hq, hr, Facility.ofCode?_code, Severity.ofCode?_code]

end Priority

end Syslog
