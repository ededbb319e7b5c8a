import Syslog.Event.Reader
import Syslog.Framing.Delimited
import Syslog.Server.Journal
import Syslog.Time.Duration
import Syslog.Transport.Error

/-!
# Sessions over a connection

A session reads messages from a connection and gives them to the handlers, each once and in order.

* It ends when the peer has sent all it wants to, when the connection fails, and when nothing but
  parts of a message has come for too long; in the last two cases such a part is dropped.
* When the server shuts down, a session that is in the middle of a message goes on reading until it
  has come to the end of one, or the time for that is over; what it then has is given as a message.
  The end of that time is computed first. If the clock cannot show it the session breaks off, and
  tells nobody that it is over.
* A session whose handler does not return is stuck, and reads no more.

A session takes part in the count of open sessions from before the handlers are told that it opens.
-/

namespace Syslog

/-- What all sessions of a server share. -/
structure SessionContext where
  handlers : List EventHandler
  charset : Charset
  /-- How long a session may be silent. -/
  timeout : Option Time.Duration
  /-- What the clock shows. -/
  now : Time.Duration := .zero

/-- Can the clock show the end of a time that begins now? It counts less than `2 ^ 63` seconds. -/
def SessionContext.canAwait (ctx : SessionContext) (time : Time.Duration) : Bool :=
  ctx.now.nanoseconds + time.nanoseconds < UInt64.size / 2 * 1000000000

/-- How far a session has got. -/
inductive SessionPhase where
  /-- The connection is not yet secure, and the session not yet open. -/
  | greeting
  | reading
  /-- The server shuts down; the session may read for so long. -/
  | draining (left : Time.Duration)
  /-- A handler does not return from being told that the session opens. -/
  | stuckOpening
  /-- A handler does not return from a later call. -/
  | stuck
  | ended
  deriving DecidableEq, Repr, Inhabited

namespace Framing.Decoder

/-- The messages that have come to their delimiters, up to the point where no byte is left. Tells
whether that point was reached. -/
def allUntilDry (d : Decoder) : List Frame × Bool × Decoder :=
  if d.buffer.isEmpty then ([], true, d)
  else
    match _h : d.next with
    | (some frame, d') =>
      let (frames, dry, rest) := d'.allUntilDry
      (frame :: frames, dry, rest)
    | (none, d') => ([], false, d')
termination_by d.buffer.length
decreasing_by exact length_next_lt _h

end Framing.Decoder

/-- A session over a connection. -/
structure Session where
  info : SessionInfo
  decoder : Framing.Decoder
  phase : SessionPhase := .greeting
  /-- How long ago the last message came to its end; before the session is open, how long the
  connection has taken to become secure. -/
  silent : Time.Duration := .zero

/-- Gives a message to the handlers, unless it is empty; tells whether all of them have returned. -/
def SessionContext.deliver (ctx : SessionContext) (info : SessionInfo) (line : Bytes)
    (j : Journal) : Bool × Journal :=
  if line.isEmpty then (true, j)
  else
    (j.noteFrame line.length).callAll (.event info (Event.ofBytes ctx.charset line)) ctx.handlers

/-- Gives what the stream has brought to the handlers, and stops at one that does not return. -/
def SessionContext.deliverAll (ctx : SessionContext) (info : SessionInfo) :
    List Frame → Journal → Bool × Journal
  | [], j => (true, j)
  | .tooLong _ :: rest, j => ctx.deliverAll info rest j.noteOversized
  | .line line :: rest, j =>
    let (ended, j) := ctx.deliver info line j
    if ended then ctx.deliverAll info rest j else (false, j)

namespace Session

/-- Opens the session. -/
def openUp (ctx : SessionContext) (s : Session) (j : Journal) : Session × Journal :=
  let (ended, j) := j.noteOpened.callAll (.opened s.info) ctx.handlers
  ({ s with phase := if ended then .reading else .stuckOpening, silent := .zero }, j)

/-- Tells the handlers that the session is over. -/
def close (ctx : SessionContext) (s : Session) (j : Journal) : Session × Journal :=
  let (ended, j) := j.callAll (.closed s.info) ctx.handlers
  if ended then ({ s with phase := .ended }, j.noteClosed) else ({ s with phase := .stuck }, j)

/-- Gives what is left in the buffer as messages, and closes. -/
def flush (ctx : SessionContext) (s : Session) (j : Journal) : Session × Journal :=
  let (ended, j) := ctx.deliverAll s.info s.decoder.finishAll j
  if ended then s.close ctx j else ({ s with phase := .stuck }, j)

/-- The session breaks off. It counts as closed, but no handler is told. -/
def breakOff (s : Session) (j : Journal) : Session × Journal :=
  ({ s with phase := .ended }, j.noteClosed)

/-- The server shuts down: the session is over unless it is in the middle of a message. -/
def drain (ctx : SessionContext) (wait : Time.Duration) (s : Session) (j : Journal) :
    Session × Journal :=
  match s.phase with
  | .reading =>
    if !ctx.canAwait wait then s.breakOff j
    else if s.decoder.buffer.isEmpty then s.flush ctx j
    else ({ s with phase := .draining wait }, j)
  | _ => (s, j)

/-- Bytes have come to a session that reads. -/
def read (ctx : SessionContext) (bytes : Bytes) (s : Session) (j : Journal) : Session × Journal :=
  let (frames, decoder) := (s.decoder.feed bytes).all
  let (ended, j) := ctx.deliverAll s.info frames j
  ({ s with
      decoder
      silent := if frames.isEmpty then s.silent else .zero
      phase := if ended then .reading else .stuck }, j)

/-- Bytes have come to a session that only completes what it has begun. -/
def readLast (ctx : SessionContext) (bytes : Bytes) (s : Session) (j : Journal) :
    Session × Journal :=
  let (frames, dry, decoder) := (s.decoder.feed bytes).allUntilDry
  let s := { s with decoder }
  let (ended, j) := ctx.deliverAll s.info frames j
  if !ended then ({ s with phase := .stuck }, j)
  else if dry then s.flush ctx j
  else (s, j)

/-- Bytes have come. -/
def feed (ctx : SessionContext) (bytes : Bytes) (s : Session) (j : Journal) : Session × Journal :=
  match s.phase with
  | .reading => s.read ctx bytes j
  | .draining _ => s.readLast ctx bytes j
  | _ => (s, j)

/-- The peer sends no more. -/
def finish (ctx : SessionContext) (s : Session) (j : Journal) : Session × Journal :=
  match s.phase with
  | .reading | .draining _ => s.flush ctx j
  | _ => (s, j)

/-- The connection fails. A part of a message is given only by a session that was to complete it. The
fault is counted, unless the peer has gone away or has not answered for too long. -/
def fail (ctx : SessionContext) (fault : LinkFault) (s : Session) (j : Journal) :
    Session × Journal :=
  match s.phase with
  | .reading => s.close ctx (if fault.isReset || fault.isTimeout then j else j.noteError)
  | .draining _ => s.flush ctx j
  | _ => (s, j)

/-- How long a connection may take to become secure. -/
def greetingTime : Time.Duration := .ofSeconds 10

/-- The time after which the session does something by itself. -/
def due? (ctx : SessionContext) (s : Session) : Option Time.Duration :=
  match s.phase with
  | .greeting => some ⟨greetingTime.nanoseconds - s.silent.nanoseconds⟩
  | .reading => ctx.timeout.map fun limit => ⟨limit.nanoseconds - s.silent.nanoseconds⟩
  | .draining left => some left
  | _ => none

/-- Time passes. -/
def pass (ctx : SessionContext) (time : Time.Duration) (s : Session) (j : Journal) :
    Session × Journal :=
  match s.phase with
  | .greeting =>
    let s := { s with silent := ⟨s.silent.nanoseconds + time.nanoseconds⟩ }
    if greetingTime.nanoseconds ≤ s.silent.nanoseconds then
      ({ s with phase := .ended }, j.noteError)
    else (s, j)
  | .reading =>
    let s := { s with silent := ⟨s.silent.nanoseconds + time.nanoseconds⟩ }
    match ctx.timeout with
    | some limit => if limit.nanoseconds ≤ s.silent.nanoseconds then s.close ctx j else (s, j)
    | none => (s, j)
  | .draining left =>
    if left.nanoseconds ≤ time.nanoseconds then s.flush ctx j
    else ({ s with phase := .draining ⟨left.nanoseconds - time.nanoseconds⟩ }, j)
  | _ => (s, j)

/-- Ends the session without another call. Only a session that was opened to the end counts as
closed. -/
def abort (s : Session) (j : Journal) : Session × Journal :=
  match s.phase with
  | .reading | .draining _ | .stuck => s.breakOff j
  | .greeting | .stuckOpening => ({ s with phase := .ended }, j)
  | .ended => (s, j)

end Session

end Syslog
