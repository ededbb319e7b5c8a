/-!
# Classes of characters as ranges

A class of characters is given by its code points, as closed ranges in rising order.
-/

namespace Syslog.Text

/-- Closed ranges of code points, in rising order. -/
abbrev Ranges := List (Nat × Nat)

/-- Does one of the ranges hold the character? -/
def Ranges.has (ranges : Ranges) (c : Char) : Bool :=
  ranges.any fun range => range.1 ≤ c.toNat && c.toNat ≤ range.2

end Syslog.Text
