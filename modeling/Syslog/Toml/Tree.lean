import Syslog.Document

/-!
# Tables under construction

The tables of a TOML text are built line by line. Each remembers how it came about, because that
decides what may still be added to it:

* a table with a header of its own is open below its header and takes no second header;
* a table that only stands on the way to a header may get a header of its own later;
* a table that stands on the way of a key with points takes more such keys, but no header;
* a list of tables takes another table with each header in double brackets.
-/

namespace Syslog.Toml

/-- How a table came about. -/
inductive Origin where
  | header
  | way
  | points
  deriving DecidableEq, Repr

/-- A value, a table or a list of tables. -/
inductive Tree where
  | value (document : Document)
  | table (origin : Origin) (members : List (String × Tree))
  | tables (rows : List (List (String × Tree)))

/-- Named values and tables. -/
abbrev Members := List (String × Tree)

namespace Members

/-- Puts a member in the place of the one of that name. -/
def replace (key : String) (t : Tree) (members : Members) : Members :=
  members.map fun m => if m.1 == key then (key, t) else m

/-- Changes the table that the keys lead to. Tables that are missing on the way are added; in a list
of tables the way goes through the last one. With `points` the way is one of a key with points,
which does not lead through tables with a header. -/
def change (points : Bool) (f : Origin → Members → Option Members) :
    List String → Origin → Members → Option Members
  | [], origin, members => f origin members
  | key :: path, _, members =>
    match members.lookup key with
    | none => do
      let origin := if points then Origin.points else .way
      let inner ← change points f path origin []
      some (members ++ [(key, .table origin inner)])
    | some (.value _) => none
    | some (.table origin inner) => do
      if points && origin == .header then none
      else
        let inner ← change points f path origin inner
        some (replace key (.table origin inner) members)
    | some (.tables rows) => do
      let row ← change points f path .header (rows.getLastD [])
      some (replace key (.tables (rows.dropLast ++ [row])) members)

/-- Adds a value under a key with points. -/
def assign (path : List String) (key : String) (d : Document) (members : Members) :
    Option Members :=
  change true
    (fun origin members =>
      if (!path.isEmpty && origin != .points) || (members.lookup key).isSome then none
      else some (members ++ [(key, .value d)]))
    path .header members

/-- Opens a table with a header. One that already stands on the way to others goes to the end. -/
def openTable (path : List String) (key : String) (members : Members) : Option Members :=
  change false
    (fun _ members =>
      match members.lookup key with
      | none => some (members ++ [(key, .table .header [])])
      | some (.table .way inner) =>
        some (members.filter (·.1 != key) ++ [(key, .table .header inner)])
      | some _ => none)
    path .header members

/-- Opens another table of a list of tables. -/
def openRow (path : List String) (key : String) (members : Members) : Option Members :=
  change false
    (fun _ members =>
      match members.lookup key with
      | none => some (members ++ [(key, .tables [[]])])
      | some (.tables rows) => some (replace key (.tables (rows ++ [[]])) members)
      | some _ => none)
    path .header members

end Members

mutual

/-- The finished value. -/
def Tree.toDocument : Tree → Document
  | .value d => d
  | .table _ members => .table (documents members)
  | .tables rows => .list (rowDocuments rows) true

/-- The finished members of a table. -/
def Tree.documents : List (String × Tree) → List (String × Document)
  | [] => []
  | (key, t) :: rest => (key, t.toDocument) :: documents rest

/-- The finished tables of a list. -/
def Tree.rowDocuments : List (List (String × Tree)) → List Document
  | [] => []
  | row :: rest => .table (documents row) :: rowDocuments rest

end

end Syslog.Toml
