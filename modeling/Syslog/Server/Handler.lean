import Syslog.Event
import Syslog.Permits
import Syslog.Text.Quoted

/-!
# Handlers of events

What a server receives it gives to its handlers, each in turn. They are also called when the server
starts and stops, and when a session opens and closes. A call ends in one of four ways; whatever way
it ends, the other handlers are called too, unless it never ends.

* `EventHandler.keeping?` is a handler that keeps events for a reader. It has room for so many, and
  does not return from a call for one more.
* `EventHandler.forgetting` is what a handler is once nothing depends on its first calls any more:
  for one that keeps events, after the reader has taken them.
-/

namespace Syslog

/-- A connection, or the sender of a datagram. -/
structure SessionInfo where
  id : Nat
  server : String
  peer : String
  deriving DecidableEq, Repr, Inhabited

/-- What a handler is called for. -/
inductive Call where
  | started (server : String)
  | opened (session : SessionInfo)
  | event (session : SessionInfo) (event : Event)
  | closed (session : SessionInfo)
  | stopped (server : String)

/-- The session that a call is about. -/
def Call.session? : Call → Option SessionInfo
  | opened s | event s _ | closed s => some s
  | started _ | stopped _ => none

/-- How a call ends. -/
inductive Conduct where
  | returns
  /-- It reports a failure, which only the call for an event can. -/
  | fails
  | panics
  /-- It does not end. -/
  | hangs
  deriving DecidableEq, Repr, Inhabited

/-- A call that was made, and how it ended. -/
structure CallRecord where
  handler : String
  call : Call
  conduct : Conduct

/-- A handler: its name, and how a call of it ends, which may depend on all calls before. -/
structure EventHandler where
  name : String
  conduct : List CallRecord → Call → Conduct := fun _ _ => .returns

/-- The events that a handler was given and has taken, each with its session. -/
def CallRecord.taken (handler : String) (calls : List CallRecord) : List (SessionInfo × Event) :=
  calls.filterMap fun r =>
    match r.call with
    | .event s e => if r.handler == handler && r.conduct == .returns then some (s, e) else none
    | _ => none

namespace EventHandler

/-- A handler that takes so many events. -/
def keeping (name : String) (room : Nat) : EventHandler where
  name
  conduct
    | calls, .event .. =>
      if (CallRecord.taken name calls).length < room then .returns else .hangs
    | _, _ => .returns

/-- Makes a handler with room for so many events, but at least for one, unless that is more than can
be counted: each event needs a permit. -/
def keeping? (name : String) (room : Nat) : Option EventHandler :=
  if Permits.areCountable (max room 1) then some (keeping name (max room 1)) else none

/-- A handler that reports a failure of every event. -/
def failing (name : String) : EventHandler where
  name
  conduct
    | _, .event .. => .fails
    | _, _ => .returns

/-- The handler without a memory of the first so many calls. -/
def forgetting (h : EventHandler) (n : Nat) : EventHandler :=
  { h with conduct := fun calls => h.conduct (calls.drop n) }

end EventHandler

/-- Handlers in the order in which they are called. -/
structure HandlerList where
  handlers : List EventHandler := []

namespace HandlerList

/-- The names of the handlers. -/
def names (l : HandlerList) : List String := l.handlers.map (·.name)

/-- The list with a handler at its end. -/
def add (l : HandlerList) (h : EventHandler) : HandlerList := ⟨l.handlers ++ [h]⟩

/-- Is there a handler of the name? -/
def contains (l : HandlerList) (name : String) : Bool := l.names.contains name

/-- The list without all handlers of a name. -/
def remove (l : HandlerList) (name : String) : HandlerList :=
  ⟨l.handlers.filter (·.name != name)⟩

/-- The list in which the handlers of a name have no memory of the first so many calls. -/
def forget (l : HandlerList) (name : String) (n : Nat) : HandlerList :=
  ⟨l.handlers.map fun h => if h.name == name then h.forgetting n else h⟩

/-- The list in words. -/
def describe (l : HandlerList) : String := Text.Quoted.list l.names

end HandlerList

end Syslog
