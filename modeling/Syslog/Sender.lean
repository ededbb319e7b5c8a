import Syslog.Backlog
import Syslog.Modifier.Chain
import Syslog.Sender.Settings

/-!
# Senders

A sender stamps a message, puts it through its modifiers, renders it, and writes it to its peer. It
tries again when the write fails, as often as its settings say, over a new connection where it has
one. What the peer answers to each write comes from a script.

* `prepare` gives the message as it is sent, and advances the modifiers;
* `attempt` writes until a write succeeds, no attempt is left, or the error is one that no other
  attempt can mend: `Fate` says which;
* `noteDown` and `noteUp` keep the sender's backlog and its counts.
-/

namespace Syslog

/-- The link of a sender to its peer: what the peer answers to the next writes, and what was written
over it. -/
structure Link where
  target : String
  outcomes : Script (Except TransportError Unit) := .always (.ok ())
  sent : Nat := 0
  bytes : Nat := 0
  errors : Nat := 0

/-- One write, the answer to it, and the link after it. -/
def Link.write (l : Link) (payload : Bytes) : Except TransportError Unit × Link :=
  let (outcome, outcomes) := l.outcomes.next
  let l := { l with outcomes }
  match outcome with
  | .ok () => (outcome, { l with sent := l.sent + 1, bytes := l.bytes + payload.length })
  | .error _ => (outcome, { l with errors := l.errors + 1 })

/-- What a sender has counted. -/
structure SenderCounts where
  sent : Nat := 0
  failed : Nat := 0
  retries : Nat := 0
  downEvents : Nat := 0
  deriving DecidableEq, Repr, Inhabited

/-- A sender at work. -/
structure Sender where
  name : String
  settings : SenderSettings
  chain : Chain
  backlog : Backlog
  /-- The name of the host in messages that have none. -/
  host : String
  link : Link
  closed : Bool := false
  counts : SenderCounts := {}

namespace Sender

/-- The sender of the settings, with a link and a backlog. -/
def make (name : String) (settings : SenderSettings) (machine : String) (link : Link)
    (backlog : Backlog) : Except ModifierError Sender := do
  let chain ← Chain.ofSettings settings.modifiers
  return { name, settings, chain, backlog, link, host := settings.localName.getD machine }

/-- Could the sender not deliver its last message? -/
def isDown (s : Sender) : Bool := s.backlog.isDown s.name

/-- The sender in words. -/
def describe (s : Sender) : String :=
  "Sender \x7b name: " ++ Text.Quoted.text s.name ++ ", kind: " ++ s.settings.transport.kind.word ++
    ", target: " ++ Text.Quoted.text s.link.target ++ " \x7d"

/-! ## 1. The message -/

/-- A message of the sender's own. -/
def message (s : Sender) (severity : Severity) (body : String) : Message :=
  { facility := s.settings.facility, severity, body, ident := s.settings.ident }

/-- The message with what it lacks of time, host and ident. -/
def stamp (s : Sender) (now : Time.DateTime) (m : Message) : Message :=
  { m with
    timestamp := m.timestamp.orElse fun _ =>
      if s.settings.sendLocalTimestamp then some now else none
    host := m.host.orElse fun _ => if s.settings.sendLocalName then some s.host else none
    ident := m.ident.orElse fun _ => s.settings.ident }

/-- The message as it is sent, and the sender after its modifiers. -/
def prepare (s : Sender) (now : Time.DateTime) (m : Message) : Message × Sender :=
  let (m, chain) := s.chain.apply (s.stamp now m)
  (m, { s with chain })

/-- The bytes of a message on the wire. -/
def payload (s : Sender) (m : Message) : Bytes :=
  s.settings.transport.charset.encode (m.render s.settings.format)

/-! ## 2. Writing -/

/-- What becomes of a message. -/
inductive Fate where
  | written
  /-- No connection could be had, and another attempt would not help. -/
  | refused (error : TransportError)
  /-- Every attempt failed; the error is that of the last. -/
  | failed (error : TransportError)
  deriving DecidableEq, Repr

/-- The largest number of attempts. -/
def attemptLimit : Nat := 4294967295

/-- The number of attempts. -/
def attempts (s : Sender) : Nat := min (s.settings.transport.writeRetries + 1) attemptLimit

/-- Does the error end the attempts at once? -/
def isFinal : TransportError → Bool
  | .poolExhausted _ | .poolClosed => true
  | _ => false

/-- One attempt. -/
def attemptOnce (s : Sender) (payload : Bytes) : Fate × Sender × List Effect :=
  let (outcome, link) := s.link.write payload
  let fate : Fate :=
    match outcome with
    | .ok () => .written
    | .error e => if isFinal e then .refused e else .failed e
  (fate, { s with link }, [.write s.name payload outcome])

/-- The sender before another attempt: a connection is given up first. -/
def again (s : Sender) : Sender × List Effect :=
  ({ s with counts.retries := s.counts.retries + 1 },
    if s.settings.transport.kind.isConnectionOriented then [.reset s.name] else [])

/-- One attempt, and at most so many more. -/
def attempt (s : Sender) (payload : Bytes) : Nat → Fate × Sender × List Effect
  | 0 => s.attemptOnce payload
  | spare + 1 =>
    match s.attemptOnce payload with
    | (.failed _, s, told) =>
      let (s, reset) := s.again
      let (fate, s, more) := attempt s payload spare
      (fate, s, told ++ reset ++ more)
    | settled => settled

/-- All attempts. -/
def attemptAll (s : Sender) (payload : Bytes) : Fate × Sender × List Effect :=
  s.attempt payload (s.attempts - 1)

/-! ## 3. Afterwards -/

/-- The message is written: the backlog learns it. -/
def noteWritten (s : Sender) : Sender × List Effect :=
  let (backlog, told) := s.backlog.noteUp s.name
  ({ s with backlog, counts.sent := s.counts.sent + 1 }, told)

/-- The message could not be written: the backlog learns it. -/
def noteFailed (s : Sender) (cause : String) : Sender × List Effect :=
  let (backlog, told) := s.backlog.noteDown s.name cause
  let failed := s.counts.failed + 1
  let downEvents := s.counts.downEvents + 1
  ({ s with backlog, counts.failed := failed, counts.downEvents := downEvents }, told)

/-- Closes the sender, once. -/
def close (s : Sender) : Sender × List Effect :=
  if s.closed then (s, []) else ({ s with closed := true }, [.close s.name])

end Sender

end Syslog
