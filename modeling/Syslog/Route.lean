import Syslog.Text.Case

/-!
# Routes

A route is the list of the instances that a message has passed through. An instance that is on it
already is not passed through again. Names that differ in ASCII case are one name here.
-/

namespace Syslog

/-- The instances that a message has passed through, in order. -/
structure Route where
  hops : List String := []
  deriving DecidableEq, Repr, Inhabited

namespace Route

/-- Is the instance on the route? -/
def contains (r : Route) (name : String) : Bool :=
  r.hops.any fun hop => Text.equalIgnoringAsciiCase hop name

/-- The route with one hop more. -/
def extend (r : Route) (name : String) : Route := ⟨r.hops ++ [name]⟩

/-- Has the message passed through nothing? -/
def isEmpty (r : Route) : Bool := r.hops.isEmpty

/-- The route in words. -/
def render (r : Route) : String := " -> ".intercalate r.hops

end Route

end Syslog
