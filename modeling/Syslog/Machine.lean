import Syslog.Time.Duration

/-!
# The machine

What the program asks the machine it runs on: its name and its clock, certificates and keys in
files, the file of its log, the addresses of names, and what it can listen on. All are functions, so
a statement about all machines can be made.
-/

namespace Syslog

/-- What is known of the surroundings before anything is sent. -/
structure Machine where
  name : String := "localhost"
  /-- How long the machine has been up. -/
  clock : Time.Duration := .zero
  /-- The number of certificates in a file, or why it cannot be read. -/
  certificates : String → Except String Nat
  /-- Whether a file holds a private key, or why it cannot be read. -/
  privateKey : String → Except String Unit
  /-- The address that a name and a port stand for, or why there is none. -/
  resolve : String → Except String String := .ok
  /-- Listens on an address or a path: where it then listens, or why it cannot. -/
  bind : String → Except String String := .ok
  /-- Opens a file for the log, unless there is a reason why it cannot be opened. -/
  openLog : String → Except String Unit := fun _ => .ok ()

end Syslog
