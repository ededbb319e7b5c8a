/-!
# Documents

A document is what a configuration is read from: values, lists of values, and tables of named
values. The members of a table keep the order in which they were written, which is the order in
which faults are reported.
-/

namespace Syslog

/-- A value, a list or a table. -/
inductive Document where
  | null
  | boolean (value : Bool)
  | integer (value : Int)
  /-- A number with a fraction or an exponent, as it was written. -/
  | decimal (written : String)
  | text (value : String)
  /-- A date, a time of day or both, as it was written. -/
  | dateTime (written : String)
  /-- A list; `underHeaders` if it was written as tables, each under a header of its own. -/
  | list (items : List Document) (underHeaders : Bool := false)
  | table (members : List (String × Document))
  deriving Inhabited

end Syslog
