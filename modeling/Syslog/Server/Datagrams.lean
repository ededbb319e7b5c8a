import Syslog.Framing.Reassembler
import Syslog.Server.Session

/-!
# Serving datagrams

A server of datagrams has one session for all peers, and receives in one loop. Over UDP a message
can come in several datagrams, which are joined; parts that have waited too long, or are left over
in the end, are given as they came. Of a datagram that is too long only the beginning is received.
When nothing can be received that is counted, and the loop goes on.
-/

namespace Syslog

/-- A server of datagrams at work. -/
structure Datagrams where
  info : SessionInfo
  /-- Joins datagrams to messages, where they may come in parts. -/
  joiner : Option (Reassembler String) := none
  phase : SessionPhase := .greeting
  now : Time.Duration := .zero

namespace Datagrams

/-- How long the parts of a message are waited for. -/
def maxAge : Time.Duration := .ofSeconds 5

/-- How many bytes of a datagram are received. -/
def maxSize : Nat := 65535

/-- The loop begins, and opens the session. -/
def settle (ctx : SessionContext) (d : Datagrams) (j : Journal) : Datagrams × Journal :=
  if d.phase = .greeting then
    let (ended, j) := j.noteOpened.callAll (.opened d.info) ctx.handlers
    ({ d with phase := if ended then .reading else .stuckOpening }, j)
  else (d, j)

/-- Gives messages of peers to the handlers, and tells whether all of them have returned. -/
def deliverEach (ctx : SessionContext) (info : SessionInfo) :
    List (String × Bytes) → Journal → Bool × Journal
  | [], j => (true, j)
  | (peer, message) :: rest, j =>
    let (ended, j) := ctx.deliver { info with peer } message.dropEnd j
    if ended then deliverEach ctx info rest j else (false, j)

/-- Gives messages to the handlers. -/
def give (ctx : SessionContext) (messages : List (String × Bytes)) (d : Datagrams) (j : Journal) :
    Datagrams × Journal :=
  let (ended, j) := deliverEach ctx d.info messages j
  (if ended then d else { d with phase := .stuck }, j)

/-- A datagram comes. -/
def receive (ctx : SessionContext) (peer : String) (datagram : Bytes) (d : Datagrams)
    (j : Journal) : Datagrams × Journal :=
  if d.phase = .reading then
    let datagram := datagram.take maxSize
    match d.joiner with
    | none => d.give ctx [(peer, datagram)] j
    | some joiner =>
      let (messages, joiner) := joiner.push d.now peer datagram
      { d with joiner := some joiner }.give ctx (messages.map (peer, ·)) j
  else (d, j)

/-- Nothing can be received. Over UDP it does not count if a peer has gone away. -/
def fail (fault : LinkFault) (d : Datagrams) (j : Journal) : Datagrams × Journal :=
  if d.phase = .reading ∧ ¬ (d.joiner.isSome ∧ fault.isReset) then (d, j.noteError) else (d, j)

/-- Time passes. -/
def pass (ctx : SessionContext) (time : Time.Duration) (d : Datagrams) (j : Journal) :
    Datagrams × Journal :=
  let now : Time.Duration := ⟨d.now.nanoseconds + time.nanoseconds⟩
  match d.joiner with
  | some joiner =>
    if d.phase = .reading then
      let (stale, joiner) := joiner.expire now maxAge
      { d with now, joiner := some joiner }.give ctx stale j
    else ({ d with now }, j)
  | none => ({ d with now }, j)

/-- Tells the handlers that the session is over. -/
def close (ctx : SessionContext) (d : Datagrams) (j : Journal) : Datagrams × Journal :=
  let (ended, j) := j.callAll (.closed d.info) ctx.handlers
  if ended then ({ d with phase := .ended }, j.noteClosed) else ({ d with phase := .stuck }, j)

/-- The loop ends: what is left is given, and the session closed. A loop whose handler does not
return does not end. -/
def finish (ctx : SessionContext) (d : Datagrams) (j : Journal) : Datagrams × Journal :=
  let (d, j) := d.settle ctx j
  if d.phase = .reading then
    let (pending, joiner) :=
      match d.joiner with
      | some joiner => let (pending, joiner) := joiner.drain; (pending, some joiner)
      | none => ([], none)
    let (d, j) := { d with joiner }.give ctx pending j
    if d.phase = .reading then d.close ctx j else (d, j)
  else (d, j)

end Datagrams

end Syslog
