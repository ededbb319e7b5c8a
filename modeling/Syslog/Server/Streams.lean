import Syslog.Server.AcceptLoop
import Syslog.Server.Session

/-!
# Serving connections

A server of streams has an accept loop and a session for each connection that it has admitted.
Connections are known by numbers that the surroundings give them; those that wait for the loop stand
in a queue. Sessions are numbered from 1 in the order of their admission.

Whatever happens to sessions, `collect` takes out those that have ended and gives their permits
back.
-/

namespace Syslog

/-- A connection that nobody has accepted yet. -/
structure Arrival where
  connection : Nat
  peer : String
  deriving DecidableEq, Repr, Inhabited

/-- A server of streams at work. -/
structure Streams where
  server : String
  framing : Framing
  /-- Does a connection have to be made secure before its session opens? -/
  isSecure : Bool
  loop : AcceptLoop
  nextId : Nat := 1
  queue : List Arrival := []
  /-- The sessions of connections. -/
  sessions : List (Nat × Session) := []

namespace Streams

/-- The session of a connection. -/
def session? (s : Streams) (connection : Nat) : Option Session := s.sessions.lookup connection

/-! ## 1. Accepting -/

/-- A connection is admitted, and has a session. -/
def seat (ctx : SessionContext) (s : Streams) (a : Arrival) (j : Journal) : Streams × Journal :=
  let session : Session :=
    { info := ⟨s.nextId, s.server, a.peer⟩, decoder := { framing := s.framing } }
  let (session, j) := if s.isSecure then (session, j) else session.openUp ctx j
  ({ s with nextId := s.nextId + 1, sessions := s.sessions ++ [(a.connection, session)] }, j)

/-- Accepts connections, until none is left or the loop has to wait. -/
def acceptEach (ctx : SessionContext) : List Arrival → Streams → Journal → Streams × Journal
  | [], s, j => ({ s with queue := [] }, j)
  | a :: rest, s, j =>
    match s.loop.accept? with
    | none => ({ s with queue := a :: rest }, j)
    | some (true, loop) =>
      let (s, j) := seat ctx { s with loop } a j
      acceptEach ctx rest s j
    | some (false, loop) => acceptEach ctx rest { s with loop } j.noteRejected

/-- Accepts the connections in the queue. -/
def accept (ctx : SessionContext) (s : Streams) (j : Journal) : Streams × Journal :=
  acceptEach ctx s.queue s j

/-- A connection comes. -/
def arrive (ctx : SessionContext) (a : Arrival) (s : Streams) (j : Journal) : Streams × Journal :=
  accept ctx { s with queue := s.queue ++ [a] } j

/-- A connection could not be accepted. -/
def fail (s : Streams) (j : Journal) : Streams × Journal :=
  match s.loop.fail? with
  | some loop => ({ s with loop }, j.noteError)
  | none => (s, j)

/-! ## 2. Sessions at work -/

/-- What can happen to a session. -/
abbrev SessionAct := Session → Journal → Session × Journal

/-- Something happens to the sessions of some connections, one after the other. -/
def actEach (who : Nat → Bool) (act : SessionAct) :
    List (Nat × Session) → Journal → List (Nat × Session) × Journal
  | [], j => ([], j)
  | (c, session) :: rest, j =>
    let (session, j) := if who c then act session j else (session, j)
    let (rest, j) := actEach who act rest j
    ((c, session) :: rest, j)

/-- Takes out the sessions that have ended, and gives their permits back. -/
def collect (s : Streams) : Streams :=
  let (ended, live) := s.sessions.partition (·.2.phase == .ended)
  { s with sessions := live, loop := ended.foldl (fun loop _ => loop.finished) s.loop }

/-- Something happens to the sessions of some connections. -/
def act (who : Nat → Bool) (f : SessionAct) (s : Streams) (j : Journal) : Streams × Journal :=
  let (sessions, j) := actEach who f s.sessions j
  (collect { s with sessions }, j)

/-- Something happens to the session of one connection. -/
def actOn (ctx : SessionContext) (connection : Nat) (f : SessionAct) (s : Streams) (j : Journal) :
    Streams × Journal :=
  let (s, j) := s.act (· == connection) f j
  s.accept ctx j

/-- A connection is secure now. -/
def secured (ctx : SessionContext) (session : Session) (j : Journal) : Session × Journal :=
  if session.phase = .greeting then session.openUp ctx j else (session, j)

/-- A connection could not be made secure. -/
def unsecured (session : Session) (j : Journal) : Session × Journal :=
  if session.phase = .greeting then ({ session with phase := .ended }, j.noteError)
  else (session, j)

/-! ## 3. Time -/

/-- The earlier of two times. -/
def sooner (a b : Option Time.Duration) : Option Time.Duration :=
  match a, b with
  | some a, some b => if a.nanoseconds ≤ b.nanoseconds then some a else some b
  | some a, none => some a
  | none, b => b

/-- The time after which something happens by itself. -/
def due? (ctx : SessionContext) (s : Streams) : Option Time.Duration :=
  s.sessions.foldl (fun t (_, session) => sooner t (session.due? ctx)) s.loop.due?

/-- Time passes, and nothing happens by itself before it is over. -/
def tick (ctx : SessionContext) (time : Time.Duration) (s : Streams) (j : Journal) :
    Streams × Journal :=
  let (s, j) := s.act (fun _ => true) (Session.pass ctx time) j
  accept ctx { s with loop := s.loop.pass time } j

/-- Time passes, in as many steps as things happen by themselves, but not in more than so many. -/
def passUpTo (ctx : SessionContext) : Nat → Time.Duration → Streams → Journal → Streams × Journal
  | 0, time, s, j => s.tick ctx time j
  | n + 1, time, s, j =>
    match s.due? ctx with
    | some due =>
      if due.nanoseconds < time.nanoseconds then
        let (s, j) := s.tick ctx due j
        passUpTo ctx n ⟨time.nanoseconds - due.nanoseconds⟩ s j
      else s.tick ctx time j
    | none => s.tick ctx time j

/-- Time passes. Each connection can end its session, and make the loop give up waiting, but once;
the loop itself can end a rest, and give up waiting once more. -/
def pass (ctx : SessionContext) (time : Time.Duration) (s : Streams) (j : Journal) :
    Streams × Journal :=
  passUpTo ctx (2 * (s.sessions.length + s.queue.length) + 2) time s j

/-! ## 4. Shutting down -/

/-- No more connections are accepted, and the sessions learn that the server shuts down. -/
def drain (ctx : SessionContext) (wait : Time.Duration) (s : Streams) (j : Journal) :
    Streams × Journal :=
  { s with loop := s.loop.stop, queue := [] }.act (fun _ => true) (Session.drain ctx wait) j

/-- The time for shutting down is over: sessions that still read give what they have, and those that
are stuck are ended. -/
def quit (ctx : SessionContext) (session : Session) (j : Journal) : Session × Journal :=
  let (session, j) :=
    match session.phase with
    | .draining _ => session.flush ctx j
    | _ => (session, j)
  session.abort j

/-- Ends all sessions. -/
def endAll (ctx : SessionContext) (s : Streams) (j : Journal) : Streams × Journal :=
  s.act (fun _ => true) (quit ctx) j

end Streams

end Syslog
