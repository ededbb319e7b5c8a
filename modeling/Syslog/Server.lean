import Syslog.Server.Binding
import Syslog.Server.Datagrams
import Syslog.Server.Streams

/-!
# Servers

A server listens in one place, and gives what it receives to its handlers.

    stopped ──start──→ running ──beginShutdown──→ shutting down ──finishShutdown──→ stopped

* `start` finds a place to listen, tells the handlers, and makes what it serves; nothing is accepted
  before that. If it finds no place the server has not changed. It breaks off if there would be more
  permits than can be counted, which turns out only after the handlers were told; and it does not
  end while a handler does not return, or while the server is still starting or shutting down.
* While the server runs, `connect`, `feed`, `finish`, `datagram` and `pass` tell what happens around
  it: connections come, bring bytes and end, datagrams come, and time passes. `failAccept`,
  `failRead` and `failReceive` tell what goes wrong.
* `beginShutdown` accepts no more and lets sessions come to an end; `finishShutdown` ends those that
  are left, takes the socket away, and tells the handlers.
-/

namespace Syslog

/-- What a running server serves. -/
inductive Service where
  | streams (streams : Streams)
  | datagrams (datagrams : Datagrams)

/-- A server. -/
structure Server where
  name : String
  settings : ServerSettings
  handlers : HandlerList := {}
  journal : Journal := {}
  state : ServerState := .stopped
  /-- The address on which the server listens, if it has one. -/
  address : Option String := none
  /-- Where the server has put a socket. -/
  socketPath : Option String := none
  service : Option Service := none
  /-- What the clock shows, while the server serves. -/
  clock : Time.Duration := .zero
  /-- A handler does not return from being told that the server starts. -/
  stuckStarting : Bool := false

namespace Server

/-- A stopped server. -/
def make (name : String) (settings : ServerSettings) : Except ServerError Server := do
  (settings.check name).mapError .config
  return { name, settings }

/-- The server in words. -/
def describe (s : Server) : String :=
  "ServerDispatcher \x7b name: " ++ Text.Quoted.text s.name ++ ", kind: " ++
    s.settings.kind.word ++ ", state: " ++ s.state.word ++ ", handlers: " ++
    s.handlers.describe ++ " \x7d"

/-- What the sessions share. -/
def context (s : Server) : SessionContext where
  handlers := s.handlers.handlers
  charset := s.settings.charset
  timeout :=
    if s.settings.sessionTimeout.nanoseconds = 0 then none else some s.settings.sessionTimeout
  now := s.clock

/-- The time in which sessions may come to the end of a message: four fifths of the time for the
whole shutdown. -/
def drainWait (s : Server) : Time.Duration := ⟨s.settings.shutdownWait.nanoseconds * 4 / 5⟩

/-- The calls that a server has made since it was in another state. -/
def callsSince (s earlier : Server) : List CallRecord :=
  s.journal.calls.drop earlier.journal.calls.length

/-! ## 1. Starting -/

/-- What the server serves at a place, unless it would have more permits than can be counted. -/
def serve? (s : Server) (place : Place) : Option Service :=
  if s.settings.isDatagram then
    some <| .datagrams
      { info := ⟨1, s.name, place.name⟩
        joiner := if s.settings.kind = .udp then some s.settings.reassembler else none }
  else
    (AcceptLoop.ofSettings? s.settings).map fun loop => .streams
      { server := s.name
        framing := s.settings.framing
        isSecure := s.settings.kind == .tls
        loop }

/-- Is the server starting or shutting down? Who wants it to start has to wait then. -/
def isLocked (s : Server) : Bool := s.stuckStarting || s.state == .shuttingDown

/-- Starts a stopped server. -/
def start (machine : Machine) (files : Files) (s : Server) :
    Except (Breakdown ServerError) Unit × Server × Files :=
  if s.isLocked then (.error .pending, s, files)
  else if s.state ≠ .stopped then
    (.error (.reported (.invalidState s.name s.state)), s, files)
  else
    match s.settings.listen machine files s.name with
    | (.error e, files) => (.error (.reported e), s, files)
    | (.ok place, files) =>
      let (ended, journal) := s.journal.callAll (.started s.name) s.handlers.handlers
      if !ended then (.error .pending, { s with journal, stuckStarting := true }, files)
      else
        match s.serve? place with
        | none => (.error .brokenOff, { s with journal }, files)
        | some service =>
          let running := { s with
            journal
            state := .running
            address := place.address
            socketPath := place.socketPath
            service := some service
            clock := machine.clock }
          (.ok (), running, files)

/-! ## 2. Running -/

/-- Something happens to the streams or the datagrams that are served. -/
def act (onStreams : Streams → Journal → Streams × Journal)
    (onDatagrams : Datagrams → Journal → Datagrams × Journal) (s : Server) : Server :=
  match s.service with
  | some (.streams st) =>
    let (st, journal) := onStreams st s.journal
    { s with journal, service := some (.streams st) }
  | some (.datagrams d) =>
    let (d, journal) := onDatagrams d s.journal
    { s with journal, service := some (.datagrams d) }
  | none => s

/-- Something happens to streams only. -/
def actOnStreams (f : Streams → Journal → Streams × Journal) : Server → Server := act f Prod.mk

/-- The loop for datagrams, if there is one, begins. -/
def settle (s : Server) : Server := s.act Prod.mk (Datagrams.settle s.context)

/-- A connection comes. -/
def connect (connection : Nat) (peer : String) (s : Server) : Server :=
  s.actOnStreams (Streams.arrive s.context ⟨connection, peer⟩)

/-- A connection could not be accepted. -/
def failAccept (s : Server) : Server := s.actOnStreams Streams.fail

/-- A connection is secure now. If the server shuts down, its session learns that at once. -/
def secured (connection : Nat) (s : Server) : Server :=
  let s := s.actOnStreams (Streams.actOn s.context connection (Streams.secured s.context))
  if s.state = .shuttingDown then
    s.actOnStreams (Streams.actOn s.context connection (Session.drain s.context s.drainWait))
  else s

/-- A connection could not be made secure. -/
def unsecured (connection : Nat) (s : Server) : Server :=
  s.actOnStreams (Streams.actOn s.context connection Streams.unsecured)

/-- Bytes come over a connection. -/
def feed (connection : Nat) (bytes : Bytes) (s : Server) : Server :=
  s.actOnStreams (Streams.actOn s.context connection (Session.feed s.context bytes))

/-- The peer of a connection sends no more. -/
def finish (connection : Nat) (s : Server) : Server :=
  s.actOnStreams (Streams.actOn s.context connection (Session.finish s.context))

/-- A connection fails. -/
def failRead (connection : Nat) (fault : LinkFault) (s : Server) : Server :=
  s.actOnStreams (Streams.actOn s.context connection (Session.fail s.context fault))

/-- A datagram comes. -/
def datagram (peer : String) (bytes : Bytes) (s : Server) : Server :=
  s.act Prod.mk (Datagrams.receive s.context peer bytes)

/-- No datagram can be received. -/
def failReceive (fault : LinkFault) (s : Server) : Server := s.act Prod.mk (Datagrams.fail fault)

/-- What the clock shows after a time. -/
def clockAfter (time : Time.Duration) (s : Server) : Time.Duration :=
  if s.service.isSome then ⟨s.clock.nanoseconds + time.nanoseconds⟩ else s.clock

/-- Time passes. -/
def pass (time : Time.Duration) (s : Server) : Server :=
  { s.act (Streams.pass s.context time) (Datagrams.pass s.context time) with
    clock := s.clockAfter time }

/-- Is a connection still waiting to be accepted? -/
def isQueued (s : Server) (connection : Nat) : Bool :=
  match s.service with
  | some (.streams st) => st.queue.any (·.connection == connection)
  | _ => false

/-- Has a connection a session? -/
def isServing (s : Server) (connection : Nat) : Bool :=
  match s.service with
  | some (.streams st) => (st.session? connection).isSome
  | _ => false

/-! ## 3. Shutting down -/

/-- A running server accepts no more, and lets its sessions come to an end. -/
def beginShutdown (s : Server) : Server :=
  if s.state = .running then
    { s with state := .shuttingDown }.act (Streams.drain s.context s.drainWait)
      (Datagrams.finish s.context)
  else s

/-- Have all handlers returned that the end of the server depends on? -/
def canStop (s : Server) : Bool :=
  match s.service with
  | some (.streams _) => true
  | some (.datagrams d) => d.phase == .ended
  | none => false

/-- The files without the socket that the server has put there. -/
def clear (files : Files) (s : Server) : Files := (s.socketPath.map files.remove).getD files

/-- The time is over: the sessions that are left are ended, and the handlers told that the server
has stopped. If a handler does not return from that, the server does not get any further. -/
def finishShutdown (files : Files) (s : Server) : Server × Files :=
  if s.state = .shuttingDown ∧ s.canStop then
    let s := s.act (Streams.endAll s.context) Prod.mk
    let (ended, journal) := s.journal.callAll (.stopped s.name) s.handlers.handlers
    let left := { s with journal, service := none, socketPath := none }
    (if ended then { left with state := .stopped, address := none } else left, s.clear files)
  else (s, files)

/-- Shuts a server down. -/
def shutdown (files : Files) (s : Server) : Server × Files := s.beginShutdown.finishShutdown files

end Server

end Syslog
