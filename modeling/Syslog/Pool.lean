import Syslog.Permits
import Syslog.Pool.Settings
import Syslog.Text.Quoted
import Syslog.Transport.Error

/-!
# Pools of connections

A pool lends connections and keeps those that come back. Connections are known by their numbers.

* A bounded pool has `maxActive` permits. A permit is taken before a connection is looked for, goes
  with the connection that is lent, and comes back with it; whoever finds none left waits, and at
  last is refused.
* What comes back goes to the end of `idle`, and is lent again from the end, so the oldest stand in
  front.
* Opening a connection takes two steps: `request` answers `dial`, and `finish` brings the outcome.
  Other things may happen to the pool in between.
* `sweep` closes idle connections that are too old or whose peer has gone, from the front; `refill`
  opens new ones until `minIdle` are idle.
* After `close` nothing is lent, and what comes back is closed.
-/

namespace Syslog

/-- A connection that nobody uses. -/
structure Idle where
  connection : Nat
  since : Time.Duration
  deriving DecidableEq, Repr, Inhabited

/-- What a pool has counted. -/
structure PoolCounts where
  created : Nat := 0
  destroyed : Nat := 0
  borrowed : Nat := 0
  returned : Nat := 0
  exhausted : Nat := 0
  deriving DecidableEq, Repr, Inhabited

/-- A pool of connections to one peer. -/
structure Pool where
  name : String
  settings : PoolSettings
  /-- Connections that nobody uses, oldest first. -/
  idle : List Idle := []
  /-- Connections that are lent. -/
  lent : List Nat := []
  /-- The permits that are left; a pool without a bound needs none. -/
  permits : Option Nat := if settings.maxActive > 0 then some settings.maxActive else none
  closed : Bool := false
  counts : PoolCounts := {}
  deriving DecidableEq, Inhabited

namespace Pool

/-- Makes a pool with no connections yet, unless it would have more permits than can be counted. -/
def make? (name : String) (settings : PoolSettings) : Option Pool :=
  if Permits.areCountable settings.maxActive then some { name, settings } else none

/-- How many permits are out; a pool without a bound does not tell. -/
def active? (p : Pool) : Option Nat := p.permits.map (p.settings.maxActive - ·)

/-- May one connection more be lent? -/
def hasPermit (p : Pool) : Bool := p.permits != some 0

/-- With one permit less. -/
def takePermit (p : Pool) : Pool := { p with permits := p.permits.map (· - 1) }

/-- With a permit that has come back. -/
def givePermit (p : Pool) : Pool := { p with permits := p.permits.map (· + 1) }

/-- The pool in words. -/
def describe (p : Pool) : String :=
  "ConnectionPool \x7b name: " ++ Text.Quoted.text p.name ++ ", idle: " ++
    toString p.idle.length ++ ", closed: " ++ (if p.closed then "true" else "false") ++ " \x7d"

/-- With connections closed. -/
def noteDestroyed (p : Pool) (count : Nat) : Pool :=
  { p with counts.destroyed := p.counts.destroyed + count }

/-! ## 1. Lending -/

/-- The answer to a request. -/
inductive Grant where
  | refused (error : TransportError)
  /-- All connections are lent: wait for one to come back. -/
  | wait
  /-- An idle connection. -/
  | lent (connection : Nat)
  /-- A new connection is to be opened; its permit is taken. -/
  | dial
  deriving DecidableEq, Repr

/-- The connection that is lent next out of the idle ones, newest first, with those that stay and
the number of those whose peer is found to have gone. -/
def pick (p : Pool) (isAlive : Nat → Bool) : List Idle → Option Nat × List Idle × Nat
  | [] => (none, [], 0)
  | e :: rest =>
    if p.settings.testOnBorrow && !isAlive e.connection then
      let (found, rest, dead) := p.pick isAlive rest
      (found, rest, dead + 1)
    else (some e.connection, rest, 0)

/-- Takes a connection out of the idle ones. -/
def takeIdle (p : Pool) (isAlive : Nat → Bool) : Option Nat × Pool :=
  let (found, rest, dead) := p.pick isAlive p.idle.reverse
  (found, { p with idle := rest.reverse }.noteDestroyed dead)

/-- With a connection lent. -/
def lend (p : Pool) (connection : Nat) : Pool :=
  { p with lent := p.lent ++ [connection], counts.borrowed := p.counts.borrowed + 1 }

/-- Asks for a connection. -/
def request (p : Pool) (isAlive : Nat → Bool) : Grant × Pool :=
  if p.closed then (.refused .poolClosed, p)
  else if !p.hasPermit then (.wait, p)
  else
    match p.takePermit.takeIdle isAlive with
    | (some c, p) => (.lent c, p.lend c)
    | (none, p) => (.dial, p)

/-- The connection that was to be opened is there, or not; then its permit comes back. -/
def finish (p : Pool) (outcome : Except TransportError Nat) : Except TransportError Nat × Pool :=
  match outcome with
  | .ok c => (outcome, { p.lend c with counts.created := p.counts.created + 1 })
  | .error _ => (outcome, p.givePermit)

/-- Nothing has come back in time. -/
def giveUp (p : Pool) : TransportError × Pool :=
  (.poolExhausted p.settings.maxWait,
    { p with counts.exhausted := p.counts.exhausted + 1 })

/-- Borrows a connection, all in one go: nothing comes back while the borrower waits. -/
def acquire {ω : Type} (p : Pool) (isAlive : Nat → Bool)
    (dial : ω → Except TransportError Nat × ω) (w : ω) : Except TransportError Nat × Pool × ω :=
  match p.request isAlive with
  | (.refused e, p) => (.error e, p, w)
  | (.wait, p) =>
    let (e, p) := p.giveUp
    (.error e, p, w)
  | (.lent c, p) => (.ok c, p, w)
  | (.dial, p) =>
    let (outcome, w) := dial w
    let (result, p) := p.finish outcome
    (result, p, w)

/-! ## 2. Coming back -/

/-- With a connection that is no longer lent, and its permit back. -/
def settle (p : Pool) (connection : Nat) : Pool :=
  { p with lent := p.lent.erase connection }.givePermit

/-- A connection comes back. -/
def release (p : Pool) (isAlive : Nat → Bool) (now : Time.Duration) (connection : Nat) : Pool :=
  let p := p.settle connection
  if p.closed || p.settings.testOnReturn && !isAlive connection then p.noteDestroyed 1
  else
    { p with
      idle := p.idle ++ [⟨connection, now⟩]
      counts.returned := p.counts.returned + 1 }

/-- A connection is closed instead of coming back. -/
def invalidate (p : Pool) (connection : Nat) : Pool := (p.settle connection).noteDestroyed 1

/-! ## 3. Idle connections -/

/-- Closes all idle connections, and tells how many. -/
def clearIdle (p : Pool) : Nat × Pool :=
  (p.idle.length, { p with idle := [] }.noteDestroyed p.idle.length)

/-- Closes the pool, once. -/
def close (p : Pool) : Pool := if p.closed then p else { p.clearIdle.2 with closed := true }

/-- What a sweep finds. -/
structure EvictionReport where
  examined : Nat := 0
  evicted : Nat := 0
  softEvicted : Nat := 0
  failedProbe : Nat := 0
  deriving DecidableEq, Repr, Inhabited

/-- How many connections a sweep closes. -/
def EvictionReport.closed (r : EvictionReport) : Nat := r.evicted + r.softEvicted + r.failedProbe

/-- What becomes of an idle connection. -/
inductive Verdict where
  | kept
  | evicted
  | softEvicted
  | failedProbe
  deriving DecidableEq, Repr

/-- The report with one more verdict. -/
def EvictionReport.note (r : EvictionReport) (v : Verdict) : EvictionReport :=
  let r := { r with examined := r.examined + 1 }
  match v with
  | .kept => r
  | .evicted => { r with evicted := r.evicted + 1 }
  | .softEvicted => { r with softEvicted := r.softEvicted + 1 }
  | .failedProbe => { r with failedProbe := r.failedProbe + 1 }

/-- Has a limit been set, and does the age exceed it? -/
def exceeds (age limit : Time.Duration) : Bool :=
  limit.nanoseconds > 0 && age.nanoseconds > limit.nanoseconds

/-- What becomes of an idle connection, beside which so many others are idle. -/
def judge (p : Pool) (isAlive : Nat → Bool) (now : Time.Duration) (e : Idle) (others : Nat) :
    Verdict :=
  let age : Time.Duration := ⟨now.nanoseconds - e.since.nanoseconds⟩
  if exceeds age p.settings.minEvictableIdleTime then .evicted
  else if exceeds age p.settings.softMinEvictableIdleTime && others ≥ p.settings.minIdle then
    .softEvicted
  else if p.settings.testWhileIdle && !isAlive e.connection then .failedProbe
  else .kept

/-- Looks at the connections in front, one after the other; `kept` are those that were kept so far,
and behind there are so many that are not looked at. -/
def examine (p : Pool) (isAlive : Nat → Bool) (now : Time.Duration) (behind : Nat) :
    (kept front : List Idle) → EvictionReport → List Idle × EvictionReport
  | kept, [], r => (kept, r)
  | kept, e :: front, r =>
    let v := p.judge isAlive now e (front.length + behind + kept.length)
    p.examine isAlive now behind (if v = .kept then kept ++ [e] else kept) front (r.note v)

/-- How many connections a sweep looks at. -/
def budget (p : Pool) : Nat :=
  match p.settings.testsPerEvictionRun with
  | 0 => p.idle.length
  | n => min n p.idle.length

/-- Closes idle connections from the front. -/
def sweep (p : Pool) (isAlive : Nat → Bool) (now : Time.Duration) : EvictionReport × Pool :=
  let front := p.idle.take p.budget
  let behind := p.idle.drop p.budget
  let (kept, r) := p.examine isAlive now behind.length [] front {}
  (r, { p with idle := kept ++ behind }.noteDestroyed r.closed)

/-- Is an idle connection to be opened? -/
def wantsIdle (p : Pool) : Bool :=
  !p.closed && p.idle.length < p.settings.minIdle &&
    p.active?.all (· + p.idle.length < p.settings.maxActive)

/-- An idle connection was opened. -/
def addIdle (p : Pool) (now : Time.Duration) (connection : Nat) : Pool :=
  { p with
    idle := p.idle ++ [⟨connection, now⟩]
    counts.created := p.counts.created + 1 }

/-- Opens idle connections while they are wanted, at most so many, and tells how many. -/
def refillUpTo {ω : Type} (dial : ω → Except TransportError Nat × ω) (now : Time.Duration) :
    Nat → Pool → ω → Nat × Pool × ω
  | 0, p, w => (0, p, w)
  | n + 1, p, w =>
    if p.wantsIdle then
      match dial w with
      | (.ok c, w) =>
        let (opened, p, w) := refillUpTo dial now n (p.addIdle now c) w
        (opened + 1, p, w)
      | (.error _, w) => (0, p, w)
    else (0, p, w)

/-- Opens idle connections until enough are idle. -/
def refill {ω : Type} (p : Pool) (dial : ω → Except TransportError Nat × ω) (now : Time.Duration)
    (w : ω) : Nat × Pool × ω :=
  refillUpTo dial now p.settings.minIdle p w

end Pool

end Syslog
