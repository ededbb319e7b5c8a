import Syslog.Proofs.Pool.Operations
import Syslog.Transport

/-!
# After a transport was closed

A transport with connections writes no more once it is closed, whatever is done with it then. One
that sends datagrams has nothing to close: it goes on as if it had not been closed at all.

* `Operation`, `performAll`: what is done with a transport, and a run of it;
* `isClosed_perform`, `perform_of_datagram`: what one operation keeps;
* `write_after_close`: what that makes of a write after a close.
-/

namespace Syslog.Transport

/-! ## 1. What is done with a transport -/

/-- What is done with a transport, and what happens to it meanwhile. -/
inductive Operation where
  | write (payload : Bytes) (now : Time.Duration)
  | reset
  | close
  /-- The one connection is opened before it is needed. -/
  | connect
  | sweep (now : Time.Duration)
  | refill (now : Time.Duration)
  /-- The peer of a connection goes away. -/
  | leave (connection : Nat)

/-- One operation; a transport that has no such connection or pool does nothing. -/
def perform : Transport × Wire → Operation → Transport × Wire
  | (t, w), .write payload now => (t.write payload now w).2
  | (t, w), .reset => (t.reset, w)
  | (t, w), .close => (t.close, w)
  | (stream t, w), .connect => (stream (t.connect w).2.1, (t.connect w).2.2)
  | (pooled t, w), .sweep now => (pooled { t with pool := (t.pool.sweep w.isAlive now).2 }, w)
  | (pooled t, w), .refill now =>
    let (_, pool, w) := t.pool.refill Wire.dial now w
    (pooled { t with pool }, w)
  | (t, w), .leave c => (t, w.leave c)
  | (t, w), _ => (t, w)

/-- Operations, one after the other. -/
def performAll (start : Transport × Wire) (ops : List Operation) : Transport × Wire :=
  ops.foldl perform start

theorem performAll_append (start : Transport × Wire) (ops more : List Operation) :
    performAll start (ops ++ more) = performAll (performAll start ops) more :=
  List.foldl_append

/-- Does the transport have connections? -/
def isConnected : Transport → Bool
  | datagram _ => false
  | stream _ | pooled _ => true

/-- Was it closed? -/
def isClosed : Transport → Bool
  | datagram _ => false
  | stream t => t.closed
  | pooled t => t.pool.closed

/-- A transport has connections if its settings are those of a stream. -/
theorem isConnected_of_establish {machine : Machine} {name : String} {s : TransportSettings}
    {pool : Option PoolSettings} {t : Transport} (opened : establish machine name s pool = .ok t) :
    t.isConnected = s.isStream := by
  unfold establish at opened
  cases streams : s.isStream with
  | true =>
    rw [if_pos streams] at opened
    cases dialer : Dialer.make machine s with
    | error e =>
      rw [dialer] at opened
      cases opened
    | ok dialer' =>
      rw [dialer] at opened
      cases pool with
      | none =>
        cases opened
        rfl
      | some settings =>
        by_cases pools : s.kind.isConnectionOriented = true
        · simp only [if_pos pools] at opened
          have last : (Breakdown.ofOption (PooledTransport.make? name dialer' settings)).map pooled =
              .ok t := opened
          cases made : PooledTransport.make? name dialer' settings with
          | none =>
            rw [made] at last
            cases last
          | some made' =>
            rw [made] at last
            cases last
            rfl
        · simp only [if_neg pools] at opened
          cases opened
          rfl
  | false =>
    rw [if_neg (by rw [streams]; exact Bool.false_ne_true)] at opened
    split at opened
    · cases opened
      rfl
    · cases bound : DatagramTransport.bind machine s with
      | error e =>
        rw [bound] at opened
        cases opened
      | ok bound' =>
        rw [bound] at opened
        cases opened
        rfl

/-! ## 2. What one operation keeps -/

/-- **A transport that was closed refuses to write**, and nothing is put on the wire. -/
theorem write_of_isClosed {t : Transport} (closed : t.isClosed = true) (payload : Bytes)
    (now : Time.Duration) (w : Wire) : t.write payload now w = (.error .closed, t, w) := by
  cases t with
  | datagram t => cases closed
  | stream t =>
    have shut : t.closed = true := closed
    simp [write, StreamTransport.write, shut]
  | pooled t =>
    have shut : t.pool.closed = true := closed
    simp [write, PooledTransport.write, shut]

/-- A transport with connections is closed by closing. -/
theorem isClosed_close {t : Transport} (connected : t.isConnected = true) :
    t.close.isClosed = true := by
  cases t with
  | datagram t => cases connected
  | stream t => rfl
  | pooled t =>
    show t.pool.close.closed = true
    unfold Pool.close
    split
    · assumption
    · rfl

/-- It stays closed, whatever is done. -/
theorem isClosed_perform {t : Transport} (closed : t.isClosed = true) (w : Wire)
    (op : Operation) : (perform (t, w) op).1.isClosed = true := by
  have connected : t.isConnected = true := by
    cases t with
    | datagram t => cases closed
    | stream t | pooled t => rfl
  cases op with
  | write payload now =>
    show (t.write payload now w).2.1.isClosed = true
    rw [write_of_isClosed closed]
    exact closed
  | close => exact isClosed_close connected
  | leave c => cases t <;> exact closed
  | reset =>
    cases t with
    | datagram t | stream t | pooled t => exact closed
  | connect =>
    cases t with
    | datagram t | pooled t => exact closed
    | stream t =>
      show (t.connect w).2.1.closed = true
      have shut : t.closed = true := closed
      unfold StreamTransport.connect
      split
      · exact shut
      · split <;> exact shut
  | sweep now =>
    cases t with
    | datagram t | stream t | pooled t => exact closed
  | refill now =>
    cases t with
    | datagram t | stream t => exact closed
    | pooled t =>
      exact (Pool.refillUpTo_keeps now t.pool.settings.minIdle t.pool w).2.trans closed

theorem isClosed_performAll {start : Transport × Wire} (closed : start.1.isClosed = true)
    (ops : List Operation) : (performAll start ops).1.isClosed = true := by
  induction ops generalizing start with
  | nil => exact closed
  | cons op ops ih => exact ih (isClosed_perform closed start.2 op)

/-- A transport has connections or not, for good. -/
theorem isConnected_perform (t : Transport) (w : Wire) (op : Operation) :
    (perform (t, w) op).1.isConnected = t.isConnected := by
  cases t <;> cases op <;> rfl

theorem isConnected_performAll (start : Transport × Wire) (ops : List Operation) :
    (performAll start ops).1.isConnected = start.1.isConnected := by
  induction ops generalizing start with
  | nil => rfl
  | cons op ops ih => exact (ih (perform start op)).trans (isConnected_perform start.1 start.2 op)

/-- Closing does nothing to a transport without connections. -/
theorem close_of_datagrams {t : Transport} (unconnected : t.isConnected = false) : t.close = t := by
  cases t with
  | datagram t => rfl
  | stream t | pooled t => cases unconnected

/-! ## 3. Writes after a close -/

/-- **After a close** a transport with connections refuses every write, and puts nothing on the
wire; with a transport that sends datagrams all goes on as if it had not been closed. -/
theorem write_after_close {machine : Machine} {name : String} {s : TransportSettings}
    {pool : Option PoolSettings} {t : Transport} (opened : establish machine name s pool = .ok t)
    (w : Wire) (before after : List Operation) (payload : Bytes) (now : Time.Duration) :
    let closed := performAll (t, w) (before ++ .close :: after)
    (s.isStream = true →
      closed.1.write payload now closed.2 = (.error .closed, closed.1, closed.2)) ∧
    (s.isStream = false → closed = performAll (t, w) (before ++ after)) := by
  intro closed
  have kind := isConnected_of_establish opened
  let start := performAll (t, w) before
  have until_close : start.1.isConnected = t.isConnected := isConnected_performAll (t, w) before
  have split : closed = performAll (start.1.close, start.2) after := performAll_append ..
  constructor
  · intro streams
    have connected : start.1.isConnected = true := until_close.trans (kind.trans streams)
    have stays : closed.1.isClosed = true := by
      rw [split]
      exact isClosed_performAll (isClosed_close connected) after
    exact write_of_isClosed stays payload now closed.2
  · intro datagrams
    have unconnected : start.1.isConnected = false := until_close.trans (kind.trans datagrams)
    rw [split, close_of_datagrams unconnected, performAll_append]

/-- A write over one connection, a close, and two writes that are refused. -/
theorem write_after_close_of_stream :
    let machine : Machine := { certificates := fun _ => .ok 1, privateKey := fun _ => .ok () }
    let s : TransportSettings := { kind := .tcp }
    let closed := performAll (stream { dialer := ⟨s⟩ }, {})
      [.write [0x68, 0x69] .zero, .close, .reset, .write [0x68, 0x6f] .zero]
    establish machine "w" s none = .ok (stream { dialer := ⟨s⟩ }) ∧
      (closed.1.write [0x68, 0x6f] .zero closed.2).1 = .error .closed ∧
      (closed.1.write [0x68, 0x6f] .zero closed.2).2.2.streams = [[0x68, 0x69, 0x0a]] := by
  intro machine s closed
  have opened : establish machine "w" s none = .ok (stream { dialer := ⟨s⟩ }) := rfl
  have refused := (write_after_close opened {} [.write [0x68, 0x69] .zero]
    [.reset, .write [0x68, 0x6f] .zero] [0x68, 0x6f] .zero).1 rfl
  have left : closed.2.streams = [[0x68, 0x69, 0x0a]] := by decide
  exact ⟨opened, congrArg (·.1) refused, (congrArg (·.2.2.streams) refused).trans left⟩

/-- A UNIX socket for datagrams still sends what is written after a close. -/
theorem datagram_after_close :
    let machine : Machine := { certificates := fun _ => .ok 1, privateKey := fun _ => .ok () }
    let s : TransportSettings := { kind := .unix, path := "s" }
    let closed := performAll (datagram (.toSocket s), {}) [.close]
    let written := closed.1.write [0x68, 0x69] .zero closed.2
    establish machine "w" s none = .ok (datagram (.toSocket s)) ∧
      written.1 = .ok () ∧ written.2.2.datagrams = [[0x68, 0x69]] :=
  ⟨rfl, rfl, rfl⟩

end Syslog.Transport
