/-!
# Permits that cannot be counted

The program counts permits in words of 64 bits, of which three are kept for other things. Who makes
more permits than that breaks off, without an error that could be reported.

* `Permits.areCountable`: can so many permits be counted?
* `Breakdown`: how work comes to nothing.
-/

namespace Syslog

/-- Can so many permits be counted? -/
def Permits.areCountable (count : Nat) : Bool := count < UInt64.size / 8

/-- How work comes to nothing. -/
inductive Breakdown (ε : Type) where
  /-- It ends with an error. -/
  | reported (error : ε)
  /-- It breaks off. -/
  | brokenOff
  /-- It does not end, or not yet: it waits for something that does not come. -/
  | pending
  deriving DecidableEq, Repr

namespace Breakdown

variable {ε δ : Type}

/-- The same with another error. -/
def map (f : ε → δ) : Breakdown ε → Breakdown δ
  | reported e => reported (f e)
  | brokenOff => brokenOff
  | pending => pending

/-- Work that can only come to nothing with an error. -/
def report {α : Type} (r : Except ε α) : Except (Breakdown ε) α := r.mapError reported

/-- The value, or the break. -/
def ofOption {α : Type} (a : Option α) : Except (Breakdown ε) α := a.elim (.error brokenOff) .ok

end Breakdown

end Syslog
