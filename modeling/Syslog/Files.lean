/-!
# Files

What is at the paths of a file system. A path leads to nothing, to the socket of somebody who
listens or has listened there, to another file, or to a directory.
-/

namespace Syslog

/-- What a path of a file system leads to. -/
inductive PathEntry where
  | absent
  | socket
  | file
  | directory
  deriving DecidableEq, Repr, Inhabited

/-- What is at each path. -/
structure Files where
  entry : String → PathEntry := fun _ => .absent

namespace Files

/-- The files with something else at a path. -/
def put (f : Files) (path : String) (e : PathEntry) : Files where
  entry := fun p => if p = path then e else f.entry p

/-- Takes away what is at a path, if it is a file or a socket. -/
def remove (f : Files) (path : String) : Files :=
  match f.entry path with
  | .socket | .file => f.put path .absent
  | .absent | .directory => f

@[simp] theorem entry_put_self (f : Files) (path : String) (e : PathEntry) :
    (f.put path e).entry path = e := if_pos rfl

theorem entry_put_of_ne (f : Files) {path p : String} (other : p ≠ path) (e : PathEntry) :
    (f.put path e).entry p = f.entry p := if_neg other

theorem entry_remove_of_ne (f : Files) {path p : String} (other : p ≠ path) :
    (f.remove path).entry p = f.entry p := by
  unfold remove
  split <;> first | exact f.entry_put_of_ne other .absent | rfl

/-- No socket is left at a path from which it was taken away. -/
theorem entry_remove_ne_socket (f : Files) (path : String) :
    (f.remove path).entry path ≠ .socket := by
  unfold remove
  split <;> simp_all

end Files

end Syslog
