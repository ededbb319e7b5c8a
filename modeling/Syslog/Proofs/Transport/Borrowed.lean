import Syslog.Proofs.Pool.Operations
import Syslog.Proofs.Transport.Single
import Syslog.Transport.Pooled

/-!
# Writes over borrowed connections

A write that was begun waits for a permit, and at last gives up; with a permit it takes an idle
connection, or has one opened. It has the connection to itself until it is over: then the connection
goes back to the pool, or is closed if the write has failed. Writes are under way side by side, and
the pool looks after its idle connections meanwhile.

A write may give up while a permit is left, for that one may already be meant for another write.
Opening an idle connection takes two steps, as for a write, and the pool may have been closed in
between.

* `PooledTraffic`, `perform`, `performAll`: the transport with its writes, and what is done with it;
* `Step`, `step_perform`: what one operation does;
* `moves_step`: what an operation does on the board of writes and connections;
* `performAll_whole`, `exists_performAll_refill`: writes and refills all in one go;
* `streams_neverBehind`: what is on the wire, for this transport and the one over one connection.
-/

namespace Syslog

/-- A transport over a pool, with the writes that were begun. -/
structure PooledTraffic where
  transport : PooledTransport
  wire : Wire
  tasks : List WriteTask := []
  /-- The frames of the writes that have succeeded. -/
  sent : List SentFrame := []
  /-- So many idle connections are being opened. -/
  opening : Nat := 0

namespace PooledTraffic

/-! ## 1. What is done -/

/-- A transport that nothing was done with, and what the surroundings will answer. -/
def unused (name : String) (dialer : Dialer) (pool : PoolSettings)
    (dials : Script (Except TransportError Unit)) (writes : Script WriteOutcome) : PooledTraffic :=
  { transport := { settings := dialer.settings, pool := { name, settings := pool } }
    wire := { dials, writes } }

/-- What is done with a transport and its pool. -/
inductive Operation where
  | start (payload : Bytes)
  /-- A write that waits is given a permit, if one is left, or learns that the pool is closed. -/
  | enter (writer : Nat)
  /-- It has waited too long. -/
  | giveUp (writer : Nat)
  /-- It looks for an idle connection. -/
  | look (writer : Nat) (isAlive : Nat → Bool)
  /-- A connection was opened for it, or not. -/
  | dialed (writer : Nat)
  /-- So many bytes of its frame are put on the connection. -/
  | put (writer count : Nat)
  /-- The rest is put there, or it fails on the way. -/
  | finish (writer : Nat) (isAlive : Nat → Bool) (now : Time.Duration)
  | reset
  | close
  | sweep (isAlive : Nat → Bool) (now : Time.Duration)
  /-- One more idle connection is to be opened, if the pool wants it. -/
  | want
  /-- An idle connection was opened, or not. -/
  | opened (now : Time.Duration)

/-- One operation; nothing happens if it is not its time. -/
def perform (t : PooledTraffic) : Operation → PooledTraffic
  | .start payload =>
    let stage := if t.transport.pool.closed then .ended (.error .closed) else .waiting
    { t with tasks := t.tasks ++ [⟨payload, stage⟩] }
  | .enter k =>
    match t.tasks[k]? with
    | some ⟨payload, .waiting⟩ =>
      if t.transport.pool.closed then
        { t with tasks := t.tasks.set k ⟨payload, .ended (.error .poolClosed)⟩ }
      else if t.transport.pool.hasPermit then
        { t with
          transport := { t.transport with pool := t.transport.pool.takePermit }
          tasks := t.tasks.set k ⟨payload, .admitted⟩ }
      else t
    | _ => t
  | .giveUp k =>
    match t.tasks[k]? with
    | some ⟨payload, .waiting⟩ =>
      let (e, pool) := t.transport.pool.giveUp
      { t with
        transport := { t.transport with pool }
        tasks := t.tasks.set k ⟨payload, .ended (.error e)⟩ }
    | _ => t
  | .look k isAlive =>
    match t.tasks[k]? with
    | some ⟨payload, .admitted⟩ =>
      match t.transport.pool.takeIdle isAlive with
      | (some c, pool) =>
        { t with
          transport := { t.transport with pool := pool.lend c }
          tasks := t.tasks.set k ⟨payload, .writing c (t.transport.settings.frame payload)⟩ }
      | (none, pool) =>
        { t with
          transport := { t.transport with pool }
          tasks := t.tasks.set k ⟨payload, .dialing⟩ }
    | _ => t
  | .dialed k =>
    match t.tasks[k]? with
    | some ⟨payload, .dialing⟩ =>
      let (outcome, wire) := t.wire.dial
      match t.transport.pool.finish outcome with
      | (.ok c, pool) =>
        { t with
          transport := { t.transport with pool }
          wire
          tasks := t.tasks.set k ⟨payload, .writing c (t.transport.settings.frame payload)⟩ }
      | (.error e, pool) =>
        { t with
          transport := { t.transport with pool }
          wire
          tasks := t.tasks.set k ⟨payload, .ended (.error e)⟩ }
    | _ => t
  | .put k n =>
    match t.tasks[k]? with
    | some ⟨payload, .writing c rest⟩ =>
      { t with
        wire := t.wire.put c (rest.take n)
        tasks := t.tasks.set k ⟨payload, .writing c (rest.drop n)⟩ }
    | _ => t
  | .finish k isAlive now =>
    match t.tasks[k]? with
    | some ⟨payload, .writing c rest⟩ =>
      let (outcome, wire) := t.wire.write c rest
      let size := (t.transport.settings.frame payload).length
      let pool := t.transport.pool
      let counts := t.transport.counts
      match outcome.result t.transport.settings.writeTimeout with
      | .ok () =>
        { t with
          transport := { t.transport with
            pool := pool.release isAlive now c
            counts := counts.noteSent size }
          wire
          tasks := t.tasks.set k ⟨payload, .ended (.ok ())⟩
          sent := t.sent ++ [⟨k, payload, c⟩] }
      | .error e =>
        { t with
          transport := { t.transport with
            pool := pool.invalidate c
            counts := counts.noteError }
          wire
          tasks := t.tasks.set k ⟨payload, .ended (.error e)⟩ }
    | _ => t
  | .reset => { t with transport := t.transport.reset }
  | .close => { t with transport := t.transport.close }
  | .sweep isAlive now =>
    { t with transport := { t.transport with pool := (t.transport.pool.sweep isAlive now).2 } }
  | .want => if t.transport.pool.wantsIdle then { t with opening := t.opening + 1 } else t
  | .opened now =>
    if t.opening = 0 then t
    else
      let opening := t.opening - 1
      match t.wire.dial with
      | (.ok c, wire) =>
        let pool := t.transport.pool.addIdle now c
        { t with transport := { t.transport with pool }, wire, opening }
      | (.error _, wire) => { t with wire, opening }

/-- Operations, one after the other. -/
def performAll (t : PooledTraffic) (ops : List Operation) : PooledTraffic := ops.foldl perform t

/-! ## 2. What one operation does -/

variable {t t' : PooledTraffic}

/-- The connections that may be taken for a write. -/
def free (t : PooledTraffic) : List Nat := t.transport.pool.idleConnections

/-- What an operation can do. -/
inductive Step (t : PooledTraffic) : PooledTraffic → Prop
  | stays : Step t t
  | starts (payload : Bytes) {stage : WriteStage} (idle : stage.isIdle = true) :
      Step t { t with tasks := t.tasks ++ [⟨payload, stage⟩] }
  | turns {k : Nat} {payload : Bytes} {stage stage' : WriteStage} {pool : Pool} {wire : Wire}
      (here : t.tasks[k]? = some ⟨payload, stage⟩) (idle : stage.isIdle = true)
      (idle' : stage'.isIdle = true) (streams : wire.streams = t.wire.streams)
      (fewer : ∀ c, pool.idleConnections.count c ≤ t.free.count c) :
      Step t { t with
        transport := { t.transport with pool }
        wire
        tasks := t.tasks.set k ⟨payload, stage'⟩ }
  | takes {k : Nat} {payload : Bytes} {stage : WriteStage} {c : Nat} {pool : Pool}
      (here : t.tasks[k]? = some ⟨payload, stage⟩) (idle : stage.isIdle = true)
      (left : ∀ x, pool.idleConnections.count x + [c].count x ≤ t.free.count x) :
      Step t { t with
        transport := { t.transport with pool }
        tasks := t.tasks.set k ⟨payload, .writing c (t.transport.settings.frame payload)⟩ }
  | opens {k : Nat} {payload : Bytes} {stage : WriteStage} {pool : Pool} {wire : Wire}
      (here : t.tasks[k]? = some ⟨payload, stage⟩) (idle : stage.isIdle = true)
      (streams : wire.streams = t.wire.streams ++ [[]])
      (same : pool.idleConnections = t.free) :
      Step t { t with
        transport := { t.transport with pool }
        wire
        tasks := t.tasks.set k ⟨payload, .writing t.wire.streams.length
          (t.transport.settings.frame payload)⟩ }
  | puts {k : Nat} {payload : Bytes} {c : Nat} {part rest : Bytes}
      (owns : Owns t.tasks k payload c (part ++ rest)) :
      Step t { t with
        wire := t.wire.put c part
        tasks := t.tasks.set k ⟨payload, .writing c rest⟩ }
  | completes {k : Nat} {payload : Bytes} {c : Nat} {rest : Bytes} {pool : Pool} {wire : Wire}
      (owns : Owns t.tasks k payload c rest)
      (streams : wire.streams = t.wire.streams.modify c (· ++ rest))
      (fewer : ∀ x, pool.idleConnections.count x ≤ (t.free ++ [c]).count x) :
      Step t { t with
        transport := { t.transport with
          pool
          counts := t.transport.counts.noteSent (t.transport.settings.frame payload).length }
        wire
        tasks := t.tasks.set k ⟨payload, .ended (.ok ())⟩
        sent := t.sent ++ [⟨k, payload, c⟩] }
  | fails {k : Nat} {payload : Bytes} {c : Nat} {part rest : Bytes} {e : TransportError}
      {pool : Pool} {wire : Wire} (owns : Owns t.tasks k payload c (part ++ rest))
      (streams : wire.streams = t.wire.streams.modify c (· ++ part))
      (same : pool.idleConnections = t.free) :
      Step t { t with
        transport := { t.transport with pool, counts := t.transport.counts.noteError }
        wire
        tasks := t.tasks.set k ⟨payload, .ended (.error e)⟩ }
  | drops {pool : Pool} (fewer : ∀ c, pool.idleConnections.count c ≤ t.free.count c) :
      Step t { t with transport := { t.transport with pool } }
  | refills {pool : Pool} {wire : Wire} {opening : Nat}
      (streams : wire.streams = t.wire.streams ++ [[]])
      (more : pool.idleConnections = t.free ++ [t.wire.streams.length]) :
      Step t { t with transport := { t.transport with pool }, wire, opening }
  | asks {wire : Wire} {opening : Nat} (streams : wire.streams = t.wire.streams) :
      Step t { t with wire, opening }

/-- What comes back is the last of the idle connections, or is closed. -/
theorem count_release_le (p : Pool) (isAlive : Nat → Bool) (now : Time.Duration) (c x : Nat) :
    (p.release isAlive now c).idleConnections.count x ≤ (p.idleConnections ++ [c]).count x := by
  simp only [Pool.release]
  split
  · rw [List.count_append]
    exact Nat.le_add_right _ _
  · refine Nat.le_of_eq (congrArg _ ?_)
    exact List.map_append

/-- **What one operation does.** -/
theorem step_perform (t : PooledTraffic) (op : Operation) : Step t (t.perform op) := by
  cases op with
  | start payload =>
    unfold perform
    by_cases shut : t.transport.pool.closed = true
    · simp only [if_pos shut]
      exact .starts payload rfl
    · simp only [if_neg shut]
      exact .starts payload rfl
  | enter k =>
    simp only [perform]
    split
    · rename_i payload here
      split
      · exact .turns here rfl rfl rfl fun _ => Nat.le_refl _
      · split
        · exact .turns here rfl rfl rfl fun _ => Nat.le_refl _
        · exact .stays
    · exact .stays
  | giveUp k =>
    simp only [perform]
    split
    · exact .turns ‹_› rfl rfl rfl fun _ => Nat.le_refl _
    · exact .stays
  | look k isAlive =>
    simp only [perform]
    split
    · rename_i payload here
      obtain ⟨c, rest, dead, taken, -, left⟩ | taken := t.transport.pool.takeIdle_cases isAlive
      · simp only [taken]
        exact .takes here rfl left
      · simp only [taken]
        exact .turns here rfl rfl rfl fun _ => Nat.zero_le _
    · exact .stays
  | dialed k =>
    simp only [perform]
    split
    · rename_i payload here
      rcases t.wire.dial_opens with ⟨w, dialed, streams⟩ | ⟨e, w, dialed, streams⟩
      · simp only [dialed, Pool.finish]
        exact .opens here rfl streams rfl
      · simp only [dialed, Pool.finish]
        exact .turns here rfl rfl streams fun _ => Nat.le_refl _
    · exact .stays
  | put k n =>
    simp only [perform]
    split
    · rename_i payload c rest here
      refine .puts ?_
      rw [List.take_append_drop]
      exact here
    · exact .stays
  | finish k isAlive now =>
    simp only [perform]
    split
    · rename_i payload c rest here
      rcases t.wire.write_puts c rest t.transport.settings.writeTimeout with
        ⟨result, streams⟩ | ⟨e, part, rest', result, rfl, streams⟩
      · rw [result]
        exact .completes here streams (count_release_le _ isAlive now c)
      · rw [result]
        exact .fails here streams rfl
    · exact .stays
  | reset => exact .drops fun _ => Nat.zero_le _
  | close =>
    refine .drops fun c => ?_
    unfold Pool.close
    split
    · exact Nat.le_refl _
    · exact Nat.zero_le _
  | sweep isAlive now => exact .drops (t.transport.pool.count_sweep_le isAlive now)
  | want =>
    simp only [perform]
    split
    · exact .asks rfl
    · exact .stays
  | opened now =>
    simp only [perform]
    split
    · exact .stays
    · rcases t.wire.dial_opens with ⟨w, dialed, streams⟩ | ⟨e, w, dialed, streams⟩
      · simp only [dialed]
        exact .refills streams List.map_append
      · simp only [dialed]
        exact .asks streams

/-- The settings stay as they are. -/
theorem Step.settings (step : Step t t') : t'.transport.settings = t.transport.settings := by
  cases step <;> rfl

/-! ## 3. The board -/

theorem performAll_concat (t : PooledTraffic) (ops : List Operation) (op : Operation) :
    t.performAll (ops ++ [op]) = (t.performAll ops).perform op := by
  unfold performAll
  rw [List.foldl_append]
  rfl

/-- The settings stay, in any run. -/
theorem settings_performAll (t : PooledTraffic) (ops : List Operation) :
    (t.performAll ops).transport.settings = t.transport.settings := by
  induction ops generalizing t with
  | nil => rfl
  | cons op ops ih => exact (ih (t.perform op)).trans (t.step_perform op).settings

/-- The steps of a write that nothing comes between. -/
def whole (k : Nat) (payload : Bytes) (isAlive : Nat → Bool) (now : Time.Duration) :
    List Operation :=
  [.start payload, .enter k, .giveUp k, .look k isAlive, .dialed k, .finish k isAlive now]

/-- **A write that nothing comes between is a write of the transport**, with the same result and the
same bytes on the wire. -/
theorem performAll_whole (t : PooledTraffic) (payload : Bytes) (now : Time.Duration) :
    let written := t.transport.write payload now t.wire
    let after := t.performAll (whole t.tasks.length payload t.wire.isAlive now)
    after.transport = written.2.1 ∧ after.wire = written.2.2 ∧
      after.tasks = t.tasks ++ [⟨payload, .ended written.1⟩] := by
  unfold PooledTransport.write Pool.acquire Pool.request
  by_cases shut : t.transport.pool.closed = true
  · simp [performAll, whole, perform, shut]
  by_cases granted : t.transport.pool.hasPermit = true
  · obtain ⟨c, rest, dead, taken, -, -⟩ | taken :=
      t.transport.pool.takePermit.takeIdle_cases t.wire.isAlive
    · let outcome := (t.wire.write c (t.transport.settings.frame payload)).1
      cases result : outcome.result t.transport.settings.writeTimeout with
      | ok _ => simp [performAll, whole, perform, shut, granted, taken, outcome, result]
      | error e => simp [performAll, whole, perform, shut, granted, taken, outcome, result]
    · rcases t.wire.dial_opens with ⟨w, dialed, streams⟩ | ⟨e, w, dialed, streams⟩
      · let outcome := (w.write t.wire.streams.length (t.transport.settings.frame payload)).1
        have alive : w.isAlive = t.wire.isAlive := by
          rw [← t.wire.isAlive_dial, dialed]
        cases result : outcome.result t.transport.settings.writeTimeout with
        | ok _ =>
          simp [performAll, whole, perform, shut, granted, taken, Pool.finish, dialed, alive,
            outcome, result]
        | error e =>
          simp [performAll, whole, perform, shut, granted, taken, Pool.finish, dialed, outcome,
            result]
      · simp [performAll, whole, perform, shut, granted, taken, Pool.finish, dialed]
  · simp [performAll, whole, perform, shut, granted]

/-- **A refill of the pool is a run**, in which one connection is opened after the other. -/
theorem exists_performAll_refill (t : PooledTraffic) (now : Time.Duration) :
    let filled := t.transport.pool.refill Wire.dial now t.wire
    ∃ ops, t.performAll ops =
      { t with transport := { t.transport with pool := filled.2.1 }, wire := filled.2.2 } := by
  unfold Pool.refill
  generalize t.transport.pool.settings.minIdle = n
  induction n generalizing t with
  | zero => exact ⟨[], rfl⟩
  | succ n ih =>
    unfold Pool.refillUpTo
    by_cases wanted : t.transport.pool.wantsIdle = true
    · rw [if_pos wanted]
      rcases t.wire.dial_opens with ⟨w, dialed, -⟩ | ⟨e, w, dialed, -⟩
      · -- the connection that is opened is idle when the next one is asked for
        let pool := t.transport.pool.addIdle now t.wire.streams.length
        obtain ⟨ops, eq⟩ := ih { t with transport := { t.transport with pool }, wire := w }
        refine ⟨.want :: .opened now :: ops, ?_⟩
        have first : (t.perform .want).perform (.opened now) =
            { t with transport := { t.transport with pool }, wire := w } := by
          simp [perform, wanted, dialed, pool]
        show performAll ((t.perform .want).perform (.opened now)) ops = _
        rw [first, eq, dialed]
      · refine ⟨[.want, .opened now], ?_⟩
        simp [performAll, perform, wanted, dialed]
    · rw [if_neg wanted]
      exact ⟨[], rfl⟩

end PooledTraffic

/-! ## 6. Both transports -/

end Syslog
