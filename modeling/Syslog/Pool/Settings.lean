import Syslog.Configuration.Error

/-!
# Settings of a connection pool

How many connections are kept, how long, and when they are tested.
-/

namespace Syslog

/-- What a pool keeps and tests. No limit is set by a `maxActive` of 0, and an age of 0 is none. -/
structure PoolSettings where
  maxActive : Nat := 8
  minIdle : Nat := 0
  maxWait : Time.Duration := .ofSeconds 5
  minEvictableIdleTime : Time.Duration := .ofSeconds 300
  softMinEvictableIdleTime : Time.Duration := .zero
  evictionRunInterval : Time.Duration := .ofSeconds 30
  /-- How many idle connections a sweep looks at; 0 stands for all. -/
  testsPerEvictionRun : Nat := 3
  testOnBorrow : Bool := false
  testOnReturn : Bool := false
  testWhileIdle : Bool := false
  deriving DecidableEq, Repr, Inhabited

namespace PoolSettings

open Decode

/-- The parts of the settings. -/
def parts : List (FieldDecoder PoolSettings) :=
  [.of "max_active" size fun x s => { s with maxActive := x },
    .of "min_idle" size fun x s => { s with minIdle := x },
    .of "max_wait" duration fun x s => { s with maxWait := x },
    .of "min_evictable_idle_time" duration fun x s => { s with minEvictableIdleTime := x },
    .of "soft_min_evictable_idle_time" duration
      fun x s => { s with softMinEvictableIdleTime := x },
    .of "eviction_run_interval" duration fun x s => { s with evictionRunInterval := x },
    .of "num_tests_per_eviction_run" size fun x s => { s with testsPerEvictionRun := x },
    .of "test_on_borrow" boolean fun x s => { s with testOnBorrow := x },
    .of "test_on_return" boolean fun x s => { s with testOnReturn := x },
    .of "test_while_idle" boolean fun x s => { s with testWhileIdle := x }]

/-- Reads the settings. -/
def decoder : Decoder PoolSettings := fields "struct PoolConfig" parts {}

instance : FromDocument PoolSettings := ⟨decoder⟩

/-- A bounded pool does not keep more connections idle than it may have. -/
def check (s : PoolSettings) (owner : String) : Except ConfigError Unit :=
  if s.maxActive > 0 && s.minIdle > s.maxActive then
    .error (.invalidValue "pool" owner "min_idle"
      ("min_idle (" ++ toString s.minIdle ++ ") exceeds max_active (" ++ toString s.maxActive ++
        ")"))
  else .ok ()

end PoolSettings

end Syslog
