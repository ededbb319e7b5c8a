import Syslog.Server.Admission

/-!
# Accepting connections

A server that listens for connections accepts them one by one, in a loop. Each turn of the loop ends
with a connection, which is admitted and keeps a permit until its session has ended, or is rejected.

* If the policy is to reject, the loop accepts a connection first, and then looks for a permit.
* If the policy is to block, the loop waits for a permit first. When it has waited long enough it
  accepts without one, and the connection it then accepts is rejected, even if a permit has come
  back by that time.
* A connection that could not be accepted makes the loop rest for a while, before its next turn.

The loop knows nothing of sessions but their number: `finished` says that one of them has ended.
-/

namespace Syslog

/-- What the loop has in hand for the next connection. -/
inductive InHand where
  /-- It will look for a permit when the connection is there. -/
  | nothing
  | permit
  /-- It has waited for a permit in vain. -/
  | refusal
  deriving DecidableEq, Repr, Inhabited

/-- Where the loop is. -/
inductive AcceptStage where
  /-- It waits for a permit, for so long at most. -/
  | waiting (left : Time.Duration)
  /-- It waits for a connection. -/
  | accepting (inHand : InHand)
  /-- A connection could not be accepted, and it rests for so long. -/
  | resting (left : Time.Duration) (inHand : InHand)
  | stopped
  deriving DecidableEq, Repr, Inhabited

/-- What the loop has in hand, unless it still waits for a permit or has stopped. -/
def AcceptStage.inHand? : AcceptStage → Option InHand
  | accepting inHand | resting _ inHand => some inHand
  | waiting _ | stopped => none

/-- The loop that accepts connections. -/
structure AcceptLoop where
  admission : Admission
  stage : AcceptStage
  deriving DecidableEq, Inhabited

namespace AcceptLoop

/-- The start of a turn. -/
def turn (a : Admission) : AcceptLoop :=
  if a.waitsBeforeAccept then
    match a.take? with
    | some a => ⟨a, .accepting .permit⟩
    | none =>
      if a.blockTimeout.nanoseconds = 0 then ⟨a, .accepting .refusal⟩
      else ⟨a, .waiting a.blockTimeout⟩
  else ⟨a, .accepting .nothing⟩

/-- The loop of the settings, as it begins, unless they ask for more permits than can be counted. -/
def ofSettings? (s : ServerSettings) : Option AcceptLoop := (Admission.ofSettings? s).map turn

/-- A connection is there: whether it is admitted, and the loop after it. A loop that is not
accepting leaves it where it is. -/
def accept? (l : AcceptLoop) : Option (Bool × AcceptLoop) :=
  match l.stage with
  | .accepting .nothing =>
    match l.admission.take? with
    | some a => some (true, turn a)
    | none => some (false, turn l.admission)
  | .accepting .permit => some (true, turn l.admission)
  | .accepting .refusal => some (false, turn l.admission)
  | .waiting _ | .resting .. | .stopped => none

/-- The permit that the loop itself holds comes back. -/
def release (l : AcceptLoop) : Admission :=
  if l.stage.inHand? = some .permit then l.admission.give else l.admission

/-- How long the loop rests. -/
def restTime : Time.Duration := .ofMillis 50

/-- A connection could not be accepted; that can only be if the loop is accepting. -/
def fail? (l : AcceptLoop) : Option AcceptLoop :=
  match l.stage with
  | .accepting inHand => some { l with stage := .resting restTime inHand }
  | _ => none

/-- A session has ended, and its permit comes back. -/
def finished (l : AcceptLoop) : AcceptLoop :=
  let a := l.admission.give
  match l.stage with
  | .waiting _ =>
    match a.take? with
    | some a => ⟨a, .accepting .permit⟩
    | none => { l with admission := a }
  | _ => { l with admission := a }

/-- Time passes. -/
def pass (l : AcceptLoop) (time : Time.Duration) : AcceptLoop :=
  match l.stage with
  | .waiting left =>
    if left.nanoseconds ≤ time.nanoseconds then { l with stage := .accepting .refusal }
    else { l with stage := .waiting ⟨left.nanoseconds - time.nanoseconds⟩ }
  | .resting left inHand =>
    if left.nanoseconds ≤ time.nanoseconds then turn l.release
    else { l with stage := .resting ⟨left.nanoseconds - time.nanoseconds⟩ inHand }
  | _ => l

/-- The time after which the loop stops waiting or resting. -/
def due? (l : AcceptLoop) : Option Time.Duration :=
  match l.stage with
  | .waiting left | .resting left _ => some left
  | _ => none

/-- No more connections are accepted. -/
def stop (l : AcceptLoop) : AcceptLoop := ⟨l.release, .stopped⟩

end AcceptLoop

end Syslog
