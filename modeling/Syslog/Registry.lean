import Syslog.Dict
import Syslog.Text.Blank
import Syslog.Text.Case
import Syslog.Text.Quoted

/-!
# Registries

A registry binds names to instances. Names that differ in case or in the blanks around them are one
name.

* `register` binds a name once: a blank name and a bound name are refused;
* `get?`, `lookup`, `contains` and `remove` take a name in any spelling;
* `names` are in rising order, and so is what `drain` takes out;
* `suppressErrors` is a mark that the registry carries for those who send through it.
-/

namespace Syslog

/-- Why a registry refuses. -/
inductive RegistryError where
  | emptyName
  | duplicate (name : String)
  | unknown (name : String)
  deriving DecidableEq, Repr

/-- The error in words. -/
def RegistryError.message : RegistryError → String
  | .emptyName => "instance name cannot be empty"
  | .duplicate name => "instance \"" ++ name ++ "\" already defined"
  | .unknown name => "instance \"" ++ name ++ "\" not defined"

/-- Named instances. -/
structure Registry (α : Type) where
  instances : Dict α := .empty
  suppressErrors : Bool := false
  deriving Inhabited

namespace Registry

variable {α : Type}

/-- The form of a name that counts: trimmed and in lower case. -/
def normalize (name : String) : String := Text.toLower (Text.trim name)

/-- Binds a name that is not bound yet. -/
def register (r : Registry α) (name : String) (inst : α) : Except RegistryError (Registry α) :=
  let key := normalize name
  if key.isEmpty then .error .emptyName
  else if r.instances.contains key then .error (.duplicate key)
  else .ok { r with instances := r.instances.insert key inst }

/-- The instance of a name. -/
def get? (r : Registry α) (name : String) : Option α := r.instances.get? (normalize name)

/-- The instance of a name, or an error that names it. -/
def lookup (r : Registry α) (name : String) : Except RegistryError α :=
  match r.get? name with
  | some inst => .ok inst
  | none => .error (.unknown (normalize name))

/-- Is the name bound? -/
def contains (r : Registry α) (name : String) : Bool := r.instances.contains (normalize name)

/-- The registry without a name. -/
def remove (r : Registry α) (name : String) : Registry α :=
  { r with instances := r.instances.erase (normalize name) }

/-- The bound names. -/
def names (r : Registry α) : List String := r.instances.keys

/-- The number of bound names. -/
def size (r : Registry α) : Nat := r.instances.size

/-- Is no name bound? -/
def isEmpty (r : Registry α) : Bool := r.instances.isEmpty

/-- All bindings in the order of their names, and the registry without them. -/
def drain (r : Registry α) : List (String × α) × Registry α :=
  (r.instances.entries, { r with instances := .empty })

/-- The registry in words. -/
def describe (r : Registry α) : String :=
  "Registry \x7b names: " ++ Text.Quoted.list r.names ++ ", suppress_errors: " ++
    (if r.suppressErrors then "true" else "false") ++ " \x7d"

end Registry

end Syslog
