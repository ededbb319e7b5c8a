import Syslog.Configuration
import Syslog.Message.Reader

/-!
# Building settings in steps

Settings can be built from a kind and a place, step by step. A step is a table: the member `do`
names it, and further members are what it sets, `value` where it is one thing. Lengths of time are
given in milliseconds, and settings within settings as in a configuration.
-/

namespace Syslog.Builder

open Decode

variable {α β : Type}

/-- A length of time in milliseconds. -/
def millis : Decoder Time.Duration := fun d => return .ofMillis (← natural64 d)

/-- A member of a step. -/
def member (name : String) (decode : Decoder β) : Decoder β := fun d => do decode (← d.read name)

/-- A step that sets one thing. -/
def step (name : String) (decode : Decoder β) (put : β → α → α) : FieldDecoder α :=
  .of name (member "value" decode) put

/-- A step that sets what is read from the whole of it. -/
def steps (name : String) (decode : Decoder β) (put : β → α → α) : FieldDecoder α :=
  .of name decode put

/-- A truth value that is false where it is missing. -/
def flag (d : Document) (name : String) : Except DecodeFault Bool := d.readD name false

/-! ## 1. The steps -/

/-- The steps for a transport. -/
def transport : List (FieldDecoder TransportSettings) :=
  [step "write_retries" natural32 fun x s => { s with writeRetries := x },
    step "max_message_length" size fun x s => { s with maxMessageLength := x },
    steps "split_markers" (fun d => return (← d.read "begin", ← d.read "end"))
      fun (x, y) s => { s with splitBegin := x, splitEnd := y },
    step "delimiter" text fun x s => { s with delimiter := x },
    step "connect_timeout" millis fun x s => { s with connectTimeout := x },
    step "write_timeout" millis fun x s => { s with writeTimeout := x },
    step "charset" (decodeName Charset.read) fun x s => { s with charset := x },
    step "tls" TlsClient.decoder fun x s => { s with tls := x }]

/-- The steps for a sender. -/
def sender : List (FieldDecoder SenderSettings) :=
  [step "facility" (decodeName Facility.read) fun x s => { s with facility := x },
    step "ident" text fun x s => { s with ident := some x },
    step "local_name" text fun x s => { s with localName := some x },
    step "format" (name [("bsd", .bsd), ("rfc5424", .rfc5424)]) fun x s => { s with format := x },
    step "throw" boolean fun x s => { s with throwOnWriteFailure := x },
    step "pool" PoolSettings.decoder fun x s => { s with pool := some x },
    step "modifier" ModifierSettings.decoder
      fun x s => { s with modifiers := s.modifiers ++ [x] },
    step "backlog" BacklogSettings.decoder fun x s => { s with backlog := s.backlog ++ [x] },
    step "delegate" text fun x s => { s with backlog := s.backlog ++ [.delegate x false] },
    steps "local_stamps" (fun d => return (← flag d "name", ← flag d "timestamp"))
      fun (x, y) s => { s with sendLocalName := x, sendLocalTimestamp := y }]

/-- The steps for a server. -/
def server : List (FieldDecoder ServerSettings) :=
  [steps "admission"
      (fun d => return (← d.read "max", ← member "overflow" OverflowPolicy.decoder d))
      fun (x, y) s => { s with maxActiveSessions := x, overflow := y },
    step "block_timeout" millis fun x s => { s with blockTimeout := x },
    step "shutdown_wait" millis fun x s => { s with shutdownWait := x },
    step "max_frame_size" size fun x s => { s with maxFrameSize := x },
    step "backlog" natural32 fun x s => { s with backlog := x },
    step "tls" ServerSettings.decodeTls fun x s => { s with tls := some x }]

/-- The steps for a pool. -/
def pool : List (FieldDecoder PoolSettings) :=
  [step "max_active" size fun x s => { s with maxActive := x },
    step "min_idle" size fun x s => { s with minIdle := x },
    step "max_wait" millis fun x s => { s with maxWait := x },
    steps "eviction"
      (fun d => return (← member "interval" millis d, ← member "min" millis d,
        ← member "soft" millis d))
      fun (x, y, z) s => { s with
        evictionRunInterval := x, minEvictableIdleTime := y, softMinEvictableIdleTime := z },
    steps "tests" (fun d => return (← flag d "borrow", ← flag d "return", ← flag d "idle"))
      fun (x, y, z) s => { s with testOnBorrow := x, testOnReturn := y, testWhileIdle := z }]

/-- Takes steps one after the other. -/
def build (known : List (FieldDecoder α)) (start : α) (taken : List Document) :
    Decoding α :=
  taken.foldlM
    (fun a d => do
      let verb ← d.read "do"
      match known.find? (·.name == verb) with
      | some field => field.put d a
      | none => throw (.unknownName verb (known.map (·.name))))
    start

/-! ## 2. Where they start -/

/-- A transport of a kind to a host and a port, or to a path. All are read, whatever the kind. -/
def peer : Decoder TransportSettings := fun d => do
  let kind ← (← d.read? "kind").mapM (name TransportKind.named)
  let host ← d.readD "host" "h"
  let port ← d.readD "port" 1
  let path ← d.readD "path" "/p"
  let type ← (← d.read? "socket_type").mapM SocketType.decoder
  match kind.getD .udp with
  | .unix => return .toPath path (type.getD .datagram)
  | kind => return .toAddress kind host port

/-- A server of a kind at a host and a port, or at a path. -/
def place : Decoder ServerSettings := fun d => do
  let s ← peer d
  match s.kind with
  | .unix => return { kind := .unix, path := s.path, socketType := s.socketType }
  | kind => return { kind, host := s.host, port := s.port }

/-- A modifier that signs with a key. -/
def mac : Decoder ModifierSettings := fun d => do
  let algorithm ← member "algorithm" (parsed MacAlgorithm.read ConfigError.message) d
  return .mac { algorithm, key := ⟨← d.read "key"⟩ }

end Syslog.Builder
