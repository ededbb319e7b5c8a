import Syslog.Proofs.Transport.Board
import Syslog.Transport.Stream

/-!
# Writes over one connection

The connection is behind a lock. A write that was begun waits for the lock, opens a connection if
there is none, and has both to itself until it is over; what else is done with the connection waits
for the lock too. Closing comes in two parts: it is noted at once, and then the connection is given
up like in a reset. A write that was begun before goes on.

* `StreamTraffic`, `perform`, `performAll`: the transport with its writes, and what is done with it;
* `Step`, `step_perform`: what one operation does;
* `Held`: one write has the lock, and the connection on which it writes is the one behind it;
* `moves_step`: what an operation does on the board of writes and connections;
* `performAll_whole`, `performAll_close`: writes and closing, all in one go.
-/

namespace Syslog

namespace Wire

/-! ## 1. The wire -/

/-- With bytes put on a connection. -/
def put (w : Wire) (connection : Nat) (bytes : Bytes) : Wire :=
  { w with streams := w.streams.modify connection (· ++ bytes) }

/-- A dial opens one connection, on which there is nothing, or none. -/
theorem dial_opens (w : Wire) :
    (∃ w' : Wire, w.dial = (.ok w.streams.length, w') ∧ w'.streams = w.streams ++ [[]]) ∨
      ∃ e, ∃ w' : Wire, w.dial = (.error e, w') ∧ w'.streams = w.streams := by
  unfold dial
  obtain ⟨outcome, dials⟩ := w.dials.next
  cases outcome with
  | ok _ => exact .inl ⟨_, rfl, rfl⟩
  | error e => exact .inr ⟨e, _, rfl, rfl⟩

/-- A write puts everything on its connection, or it fails, with a part of it there. -/
theorem write_puts (w : Wire) (c : Nat) (bytes : Bytes) (limit : Time.Duration) :
    (((w.write c bytes).1.result limit = .ok ()) ∧
        (w.write c bytes).2.streams = w.streams.modify c (· ++ bytes)) ∨
      ∃ e part rest, (w.write c bytes).1.result limit = .error e ∧ part ++ rest = bytes ∧
        (w.write c bytes).2.streams = w.streams.modify c (· ++ part) := by
  unfold write
  obtain ⟨outcome, writes⟩ := w.writes.next
  cases outcome with
  | complete => exact .inl ⟨rfl, rfl⟩
  | failed n reason => exact .inr ⟨_, _, _, rfl, List.take_append_drop n bytes, rfl⟩
  | late n => exact .inr ⟨_, _, _, rfl, List.take_append_drop n bytes, rfl⟩

/-- Only `leave` makes peers go away. -/
@[simp] theorem isAlive_write (w : Wire) (c : Nat) (bytes : Bytes) :
    (w.write c bytes).2.isAlive = w.isAlive := rfl

theorem isAlive_dial (w : Wire) : w.dial.2.isAlive = w.isAlive := by
  unfold dial
  obtain ⟨outcome, dials⟩ := w.dials.next
  cases outcome <;> rfl

end Wire

/-- A connection is there, or one is opened, or there is none. -/
theorem StreamTransport.connect_cases (t : StreamTransport) (w : Wire) :
    (∃ c, t.connection = some c ∧ t.connect w = (.ok c, t, w)) ∨
      (t.connection = none ∧ ∃ w' : Wire, w'.streams = w.streams ++ [[]] ∧
        t.connect w = (.ok w.streams.length,
          { t with connection := some w.streams.length, counts := t.counts.noteConnect }, w')) ∨
      ∃ e, ∃ w' : Wire, w'.streams = w.streams ∧ t.connect w = (.error e, t, w') := by
  unfold StreamTransport.connect
  cases there : t.connection with
  | some c => exact .inl ⟨c, rfl, rfl⟩
  | none =>
    rcases w.dial_opens with ⟨w', dialed, streams⟩ | ⟨e, w', dialed, streams⟩
    · rw [dialed]
      exact .inr (.inl ⟨rfl, w', streams, rfl⟩)
    · rw [dialed]
      exact .inr (.inr ⟨e, w', streams, rfl⟩)

/-! ## 2. What is done -/

namespace WriteStage

/-- Is the write between taking the lock and giving it back? -/
def isInside : WriteStage → Bool
  | admitted | dialing | writing _ _ => true
  | waiting | ended _ => false

/-- Does the write own a connection? -/
def isWriting : WriteStage → Bool
  | writing _ _ => true
  | _ => false

end WriteStage

/-- A transport over one connection, with the writes that were begun. -/
structure StreamTraffic where
  transport : StreamTransport
  wire : Wire
  tasks : List WriteTask := []
  /-- The frames of the writes that have succeeded. -/
  sent : List SentFrame := []

namespace StreamTraffic

/-- A transport that nothing was done with, and what the surroundings will answer. -/
def unused (dialer : Dialer) (dials : Script (Except TransportError Unit))
    (writes : Script WriteOutcome) : StreamTraffic :=
  { transport := { dialer }, wire := { dials, writes } }

/-- What is done with a transport. -/
inductive Operation where
  | start (payload : Bytes)
  /-- A write that waits is given the lock. -/
  | enter (writer : Nat)
  /-- It gets its connection, or none. -/
  | connected (writer : Nat)
  /-- So many bytes of its frame are put on the connection. -/
  | put (writer count : Nat)
  /-- The rest is put there, or it fails on the way. -/
  | finish (writer : Nat)
  | connect
  | reset
  /-- The transport is closed; a reset follows. -/
  | shut

/-- Has a write got the lock? -/
def isLocked (t : StreamTraffic) : Bool := t.tasks.any (·.stage.isInside)

/-- One operation; nothing happens if it is not its time. -/
def perform (t : StreamTraffic) : Operation → StreamTraffic
  | .start payload =>
    let stage := if t.transport.closed then .ended (.error .closed) else .waiting
    { t with tasks := t.tasks ++ [⟨payload, stage⟩] }
  | .enter k =>
    match t.tasks[k]? with
    | some ⟨payload, .waiting⟩ =>
      if t.isLocked then t else { t with tasks := t.tasks.set k ⟨payload, .admitted⟩ }
    | _ => t
  | .connected k =>
    match t.tasks[k]? with
    | some ⟨payload, .admitted⟩ =>
      match t.transport.connect t.wire with
      | (.ok c, transport, wire) =>
        let stage := .writing c (t.transport.dialer.settings.frame payload)
        { t with transport, wire, tasks := t.tasks.set k ⟨payload, stage⟩ }
      | (.error e, transport, wire) =>
        { t with transport, wire, tasks := t.tasks.set k ⟨payload, .ended (.error e)⟩ }
    | _ => t
  | .put k n =>
    match t.tasks[k]? with
    | some ⟨payload, .writing c rest⟩ =>
      { t with
        wire := t.wire.put c (rest.take n)
        tasks := t.tasks.set k ⟨payload, .writing c (rest.drop n)⟩ }
    | _ => t
  | .finish k =>
    match t.tasks[k]? with
    | some ⟨payload, .writing c rest⟩ =>
      let (outcome, wire) := t.wire.write c rest
      let size := (t.transport.dialer.settings.frame payload).length
      let counts := t.transport.counts
      match outcome.result t.transport.dialer.settings.writeTimeout with
      | .ok () =>
        { transport := { t.transport with counts := counts.noteSent size }
          wire
          tasks := t.tasks.set k ⟨payload, .ended (.ok ())⟩
          sent := t.sent ++ [⟨k, payload, c⟩] }
      | .error e =>
        { t with
          transport := { t.transport with connection := none, counts := counts.noteError }
          wire
          tasks := t.tasks.set k ⟨payload, .ended (.error e)⟩ }
    | _ => t
  | .connect =>
    if t.isLocked then t
    else
      let (_, transport, wire) := t.transport.connect t.wire
      { t with transport, wire }
  | .reset => if t.isLocked then t else { t with transport := t.transport.reset }
  | .shut => { t with transport := { t.transport with closed := true } }

/-- Operations, one after the other. -/
def performAll (t : StreamTraffic) (ops : List Operation) : StreamTraffic := ops.foldl perform t

/-! ## 3. What one operation does -/

variable {t t' : StreamTraffic}

/-- What an operation can do. -/
inductive Step (t : StreamTraffic) : StreamTraffic → Prop
  | stays : Step t t
  | starts (payload : Bytes) {stage : WriteStage} (idle : stage.isIdle = true)
      (outside : stage.isInside = false) :
      Step t { t with tasks := t.tasks ++ [⟨payload, stage⟩] }
  | enters {k : Nat} {payload : Bytes} (here : t.tasks[k]? = some ⟨payload, .waiting⟩)
      (unlocked : t.isLocked = false) :
      Step t { t with tasks := t.tasks.set k ⟨payload, .admitted⟩ }
  | takes {k : Nat} {payload : Bytes} {c : Nat} (here : t.tasks[k]? = some ⟨payload, .admitted⟩)
      (there : t.transport.connection = some c) :
      Step t { t with
        tasks := t.tasks.set k
          ⟨payload, .writing c (t.transport.dialer.settings.frame payload)⟩ }
  | opens {k : Nat} {payload : Bytes} {wire : Wire} {counts : TransportCounts}
      (here : t.tasks[k]? = some ⟨payload, .admitted⟩) (absent : t.transport.connection = none)
      (streams : wire.streams = t.wire.streams ++ [[]])
      (same : counts.sent = t.transport.counts.sent ∧ counts.bytes = t.transport.counts.bytes) :
      Step t { t with
        transport := { t.transport with connection := some t.wire.streams.length, counts }
        wire
        tasks := t.tasks.set k ⟨payload, .writing t.wire.streams.length
          (t.transport.dialer.settings.frame payload)⟩ }
  | refused {k : Nat} {payload : Bytes} {e : TransportError} {wire : Wire}
      (here : t.tasks[k]? = some ⟨payload, .admitted⟩) (streams : wire.streams = t.wire.streams) :
      Step t { t with wire, tasks := t.tasks.set k ⟨payload, .ended (.error e)⟩ }
  | puts {k : Nat} {payload : Bytes} {c : Nat} {part rest : Bytes}
      (owns : Owns t.tasks k payload c (part ++ rest)) :
      Step t { t with
        wire := t.wire.put c part
        tasks := t.tasks.set k ⟨payload, .writing c rest⟩ }
  | completes {k : Nat} {payload : Bytes} {c : Nat} {rest : Bytes} {wire : Wire}
      (owns : Owns t.tasks k payload c rest)
      (streams : wire.streams = t.wire.streams.modify c (· ++ rest)) :
      Step t
        { transport := { t.transport with
            counts := t.transport.counts.noteSent
              (t.transport.dialer.settings.frame payload).length }
          wire
          tasks := t.tasks.set k ⟨payload, .ended (.ok ())⟩
          sent := t.sent ++ [⟨k, payload, c⟩] }
  | fails {k : Nat} {payload : Bytes} {c : Nat} {part rest : Bytes} {e : TransportError}
      {wire : Wire} (owns : Owns t.tasks k payload c (part ++ rest))
      (streams : wire.streams = t.wire.streams.modify c (· ++ part)) :
      Step t { t with
        transport := { t.transport with
          connection := none
          counts := t.transport.counts.noteError }
        wire
        tasks := t.tasks.set k ⟨payload, .ended (.error e)⟩ }
  | connects {wire : Wire} {counts : TransportCounts} (unlocked : t.isLocked = false)
      (absent : t.transport.connection = none) (streams : wire.streams = t.wire.streams ++ [[]])
      (same : counts.sent = t.transport.counts.sent ∧ counts.bytes = t.transport.counts.bytes) :
      Step t { t with
        transport := { t.transport with connection := some t.wire.streams.length, counts }
        wire }
  | asks {wire : Wire} (streams : wire.streams = t.wire.streams) : Step t { t with wire }
  | resets (unlocked : t.isLocked = false) : Step t { t with transport := t.transport.reset }
  | shuts : Step t { t with transport := { t.transport with closed := true } }

/-- **What one operation does.** -/
theorem step_perform (t : StreamTraffic) (op : Operation) : Step t (t.perform op) := by
  cases op with
  | start payload =>
    unfold perform
    by_cases shut : t.transport.closed = true
    · simp only [if_pos shut]
      exact .starts payload rfl rfl
    · simp only [if_neg shut]
      exact .starts payload rfl rfl
  | enter k =>
    simp only [perform]
    split
    · split
      · exact .stays
      · exact .enters ‹_› (Bool.eq_false_iff.2 ‹_›)
    · exact .stays
  | connected k =>
    simp only [perform]
    split
    · rename_i payload here
      rcases t.transport.connect_cases t.wire with ⟨c, there, eq⟩ | ⟨absent, w, streams, eq⟩ |
        ⟨e, w, streams, eq⟩
      · rw [eq]
        exact .takes here there
      · rw [eq]
        exact .opens here absent streams ⟨rfl, rfl⟩
      · rw [eq]
        exact .refused here streams
    · exact .stays
  | put k n =>
    simp only [perform]
    split
    · rename_i payload c rest here
      refine .puts ?_
      rw [List.take_append_drop]
      exact here
    · exact .stays
  | finish k =>
    simp only [perform]
    split
    · rename_i payload c rest here
      rcases t.wire.write_puts c rest t.transport.dialer.settings.writeTimeout with
        ⟨result, streams⟩ | ⟨e, part, rest', result, rfl, streams⟩
      · rw [result]
        exact .completes here streams
      · rw [result]
        exact .fails here streams
    · exact .stays
  | connect =>
    simp only [perform]
    split
    · exact .stays
    · rename_i unlocked
      rcases t.transport.connect_cases t.wire with ⟨c, there, eq⟩ | ⟨absent, w, streams, eq⟩ |
        ⟨e, w, streams, eq⟩
      · rw [eq]
        exact .stays
      · rw [eq]
        exact .connects (Bool.eq_false_iff.2 unlocked) absent streams ⟨rfl, rfl⟩
      · rw [eq]
        exact .asks streams
  | reset =>
    simp only [perform]
    split
    · exact .stays
    · exact .resets (Bool.eq_false_iff.2 ‹_›)
  | shut => exact .shuts

/-- The settings stay as they are. -/
theorem Step.dialer (step : Step t t') : t'.transport.dialer = t.transport.dialer := by
  cases step <;> rfl

/-! ## 4. The lock -/

/-- No write other than this has the lock. -/
def Alone (tasks : List WriteTask) (k : Nat) : Prop :=
  ∀ i x, i ≠ k → tasks[i]? = some x → x.stage.isInside = false

theorem Alone.set {tasks : List WriteTask} {k : Nat} (alone : Alone tasks k) (x : WriteTask) :
    Alone (tasks.set k x) k := by
  intro i y other at_i
  rw [getElem?_set_of_ne other] at at_i
  exact alone i y other at_i

/-- Nobody has the lock. -/
theorem isInside_of_unlocked (unlocked : t.isLocked = false) {i : Nat} {x : WriteTask}
    (at_i : t.tasks[i]? = some x) : x.stage.isInside = false :=
  Bool.eq_false_iff.2 (List.any_eq_false.1 unlocked x (List.mem_of_getElem? at_i))

/-- One write has the lock at most, and the connection on which it writes is the one behind it. -/
structure Held (t : StreamTraffic) : Prop where
  alone : ∀ k x, t.tasks[k]? = some x → x.stage.isInside = true → Alone t.tasks k
  connected : ∀ k payload c rest, Owns t.tasks k payload c rest → t.transport.connection = some c

/-- A write that alone may have the lock goes on. -/
theorem alone_set {tasks : List WriteTask} {k : Nat} (alone : Alone tasks k) (x : WriteTask)
    (i : Nat) (y : WriteTask) (at_i : (tasks.set k x)[i]? = some y)
    (inside : y.stage.isInside = true) : Alone (tasks.set k x) i := by
  by_cases same : i = k
  · subst same
    exact alone.set x
  · have outside := alone.set x i y same at_i
    rw [inside] at outside
    cases outside

theorem alone_of_unlocked (unlocked : t.isLocked = false) (k : Nat) : Alone t.tasks k :=
  fun _ _ _ at_i => isInside_of_unlocked unlocked at_i

/-- The write that has the lock goes on, and owns the connection, if it owns any. -/
theorem Held.turn {transport : StreamTransport} {wire : Wire} {k : Nat} {payload : Bytes}
    {stage : WriteStage} {sent : List SentFrame} (alone : Alone t.tasks k)
    (connected : ∀ c rest, stage = .writing c rest → transport.connection = some c) :
    Held { transport, wire, tasks := t.tasks.set k ⟨payload, stage⟩, sent } where
  alone := alone_set alone _
  connected i payload' c rest owns := by
    rcases owns.of_set with ⟨-, -, writes⟩ | ⟨other, before⟩
    · exact connected c rest writes
    · cases alone i _ other before

/-- Nobody has the lock, and something is done with the connection. -/
theorem Held.of_unlocked {transport : StreamTransport} {wire : Wire} (held : Held t)
    (unlocked : t.isLocked = false) : Held { t with transport, wire } where
  alone := held.alone
  connected _ _ _ _ owns := by cases isInside_of_unlocked unlocked owns

/-- **Whatever is done, one write has the lock at most.** -/
theorem Held.step (held : Held t) (step : Step t t') : Held t' := by
  cases step with
  | stays => exact held
  | @starts payload stage idle outside =>
    refine ⟨fun k x at_k inside => ?_, fun k payload' c rest owns =>
      held.connected k payload' c rest (owns.of_append_idle idle)⟩
    -- the one that is new does not have the lock
    have old : ∀ (i : Nat) (y : WriteTask), (t.tasks ++ [⟨payload, stage⟩])[i]? = some y →
        y.stage.isInside = true → t.tasks[i]? = some y := by
      intro i y at_i inside'
      rcases getElem?_concat_cases at_i with new | before
      · rw [new, outside] at inside'
        cases inside'
      · exact before
    intro i y other at_i
    refine Bool.eq_false_iff.2 fun inside' => ?_
    have apart := held.alone k x (old k x at_k inside) inside i y other (old i y at_i inside')
    rw [inside'] at apart
    cases apart
  | enters here unlocked => exact .turn (alone_of_unlocked unlocked _) fun _ _ eq => nomatch eq
  | takes here there =>
    refine .turn (held.alone _ _ here rfl) fun c rest eq => ?_
    cases eq
    exact there
  | opens here absent streams same =>
    refine .turn (held.alone _ _ here rfl) fun c rest eq => ?_
    cases eq
    rfl
  | refused here streams => exact .turn (held.alone _ _ here rfl) fun _ _ eq => nomatch eq
  | puts owns =>
    refine .turn (held.alone _ _ owns rfl) fun c rest eq => ?_
    cases eq
    exact held.connected _ _ _ _ owns
  | completes owns streams => exact .turn (held.alone _ _ owns rfl) fun _ _ eq => nomatch eq
  | fails owns streams => exact .turn (held.alone _ _ owns rfl) fun _ _ eq => nomatch eq
  | connects unlocked absent streams same => exact held.of_unlocked unlocked
  | asks streams => exact ⟨held.alone, held.connected⟩
  | resets unlocked => exact held.of_unlocked unlocked
  | shuts => exact ⟨held.alone, held.connected⟩

/-! ## 5. The board -/

/-- The connections that may be taken for a write. -/
def free (t : StreamTraffic) : List Nat :=
  if t.tasks.any (·.stage.isWriting) then [] else t.transport.connection.toList

section Turn

variable {transport : StreamTransport} {wire : Wire} {sent : List SentFrame} {k c : Nat}
  {x : WriteTask} {payload rest : Bytes} {stage : WriteStage}

end Turn

theorem performAll_concat (t : StreamTraffic) (ops : List Operation) (op : Operation) :
    t.performAll (ops ++ [op]) = (t.performAll ops).perform op := by
  unfold performAll
  rw [List.foldl_append]
  rfl

/-- The steps of a write that nothing comes between. -/
def whole (k : Nat) (payload : Bytes) : List Operation :=
  [.start payload, .enter k, .connected k, .finish k]

/-- **A write that nothing comes between is a write of the transport**, with the same result and the
same bytes on the wire. -/
theorem performAll_whole (unlocked : t.isLocked = false) (payload : Bytes) :
    let written := t.transport.write payload t.wire
    let after := t.performAll (whole t.tasks.length payload)
    after.transport = written.2.1 ∧ after.wire = written.2.2 ∧
      after.tasks = t.tasks ++ [⟨payload, .ended written.1⟩] := by
  have still : isLocked { t with tasks := t.tasks ++ [⟨payload, .waiting⟩] } = false := by
    unfold isLocked at unlocked ⊢
    rw [List.any_append, unlocked]
    rfl
  unfold StreamTransport.write
  by_cases shut : t.transport.closed = true
  · simp [performAll, whole, perform, shut]
  rcases t.transport.connect_cases t.wire with ⟨c, there, eq⟩ | ⟨absent, w, streams, eq⟩ |
    ⟨e, w, streams, eq⟩
  · let outcome := (t.wire.write c (t.transport.dialer.settings.frame payload)).1
    cases result : outcome.result t.transport.dialer.settings.writeTimeout with
    | ok _ => simp [performAll, whole, perform, shut, still, eq, outcome, result]
    | error e => simp [performAll, whole, perform, shut, still, eq, outcome, result]
  · let outcome := (w.write t.wire.streams.length (t.transport.dialer.settings.frame payload)).1
    cases result : outcome.result t.transport.dialer.settings.writeTimeout with
    | ok _ => simp [performAll, whole, perform, shut, still, eq, outcome, result]
    | error e => simp [performAll, whole, perform, shut, still, eq, outcome, result]
  · simp [performAll, whole, perform, shut, still, eq]

/-- A write that is over too late leaves a part of its frame behind, and the next one goes over
another connection. -/
example :
    ((unused ⟨{}⟩ (.always (.ok ())) ⟨[.late 2], .complete⟩).performAll
      (whole 0 [0x61, 0x62, 0x63] ++ whole 1 [0x64])).wire.streams =
        [[0x61, 0x62], [0x64, 0x0a]] := by decide

/-- Closing comes in two parts. -/
theorem performAll_close (unlocked : t.isLocked = false) :
    t.performAll [.shut, .reset] = { t with transport := t.transport.close } := by
  have still : isLocked { t with transport := { t.transport with closed := true } } = false :=
    unlocked
  show perform _ .reset = _
  simp only [perform, still]
  rfl

end StreamTraffic

end Syslog
