import Syslog.Framing.Fragment

/-!
# Joining datagrams to messages

The receiver knows parts of a message by their marks only. It holds one unfinished message for each
peer, and what is received is never lost:

* a part that completes its message gives the message;
* if anything else follows an unfinished message, or if the message grows too long, its datagrams
  are given as they came;
* a part without a message to continue is a message of its own.
-/

namespace Syslog

/-- A message that has not ended. -/
structure Unfinished where
  /-- The parts without their marks. -/
  joined : Bytes
  /-- The datagrams as they came. -/
  raw : Bytes
  /-- When the last part came. -/
  updated : Time.Duration
  deriving DecidableEq, Repr, Inhabited

/-- Joins datagrams to messages of at most `maxSize` bytes. -/
structure Reassembler (κ : Type) where
  markers : Markers
  maxSize : Nat
  /-- The peers with an unfinished message, each once. -/
  pending : List (κ × Unfinished) := []

namespace Reassembler

variable {κ : Type} [DecidableEq κ]

/-- The unfinished message of a peer. -/
def pending? (r : Reassembler κ) (peer : κ) : Option Unfinished := r.pending.lookup peer

/-- Without the unfinished message of a peer. -/
def drop (r : Reassembler κ) (peer : κ) : Reassembler κ :=
  { r with pending := r.pending.filter (·.1 != peer) }

/-- With an unfinished message of a peer. -/
def hold (r : Reassembler κ) (peer : κ) (u : Unfinished) : Reassembler κ :=
  { r with pending := (peer, u) :: (r.drop peer).pending }

/-- A datagram of a peer without an unfinished message. -/
def pushFresh (r : Reassembler κ) (now : Time.Duration) (peer : κ) (datagram : Bytes) :
    List Bytes × Reassembler κ :=
  if r.markers.goesOn datagram && !r.markers.continues datagram then
    ([], r.hold peer ⟨r.markers.dropEnding datagram, datagram, now⟩)
  else ([datagram], r)

/-- A part that continues an unfinished message. -/
def pushPart (r : Reassembler κ) (now : Time.Duration) (peer : κ) (u : Unfinished)
    (datagram : Bytes) : List Bytes × Reassembler κ :=
  let part := r.markers.dropBeginning datagram
  let more := r.markers.goesOn part
  let u : Unfinished :=
    ⟨u.joined ++ (if more then r.markers.dropEnding part else part), u.raw ++ datagram, now⟩
  if u.joined.length > r.maxSize then ([u.raw], r.drop peer)
  else if more then ([], r.hold peer u)
  else ([u.joined], r.drop peer)

/-- A datagram of a peer: the messages that it brings to an end, and the reassembler after it. -/
def push (r : Reassembler κ) (now : Time.Duration) (peer : κ) (datagram : Bytes) :
    List Bytes × Reassembler κ :=
  match r.pending? peer with
  | none => r.pushFresh now peer datagram
  | some u =>
    if r.markers.continues datagram then r.pushPart now peer u datagram
    else
      let (messages, r) := (r.drop peer).pushFresh now peer datagram
      (u.raw :: messages, r)

/-- Datagrams of a peer, one after the other: the messages of all of them. -/
def pushAll (r : Reassembler κ) (now : Time.Duration) (peer : κ) :
    List Bytes → List Bytes × Reassembler κ
  | [] => ([], r)
  | datagram :: rest =>
    let (messages, r) := r.push now peer datagram
    let (more, r) := r.pushAll now peer rest
    (messages ++ more, r)

/-- Gives up the unfinished messages that have not grown for `maxAge`. -/
def expire (r : Reassembler κ) (now maxAge : Time.Duration) :
    List (κ × Bytes) × Reassembler κ :=
  let isStale := fun (e : κ × Unfinished) =>
    decide (maxAge.nanoseconds ≤ now.nanoseconds - e.2.updated.nanoseconds)
  ((r.pending.filter isStale).map fun e => (e.1, e.2.raw),
    { r with pending := r.pending.filter fun e => !isStale e })

/-- Gives up all unfinished messages. -/
def drain (r : Reassembler κ) : List (κ × Bytes) × Reassembler κ :=
  (r.pending.map fun e => (e.1, e.2.raw), { r with pending := [] })

end Reassembler

end Syslog
