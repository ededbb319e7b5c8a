import Syslog.Transport.Settings

/-!
# Settings of a server

Where a server listens, how it cuts what it receives into messages, and how many sessions it admits.
-/

namespace Syslog

/-- What becomes of a connection when the server is full. -/
inductive OverflowPolicy where
  | reject
  | block
  deriving DecidableEq, Repr, Inhabited

/-- The name in settings. -/
def OverflowPolicy.name : OverflowPolicy → String
  | reject => "reject"
  | block => "block"

/-- Reads a policy. -/
def OverflowPolicy.decoder : Decoder OverflowPolicy :=
  Decode.name ([reject, block].map fun p => (p.name, p))

/-- With what a TLS server identifies itself. -/
structure TlsServer where
  certFile : String
  keyFile : String
  deriving DecidableEq, Repr, Inhabited

/-- How a server works. No limit of sessions is set by a `maxActiveSessions` of 0, and a session
that is silent is ended only if `sessionTimeout` is not 0. -/
structure ServerSettings where
  kind : TransportKind := .udp
  host : String := "0.0.0.0"
  port : Nat := defaultPort
  path : String := defaultPath
  socketType : SocketType := .datagram
  charset : Charset := .utf8
  delimiter : String := defaultDelimiter
  maxFrameSize : Nat := 8192
  splitBegin : String := defaultMarker
  splitEnd : String := defaultMarker
  backlog : Nat := 50
  maxActiveSessions : Nat := 0
  overflow : OverflowPolicy := .reject
  blockTimeout : Time.Duration := .ofSeconds 10
  shutdownWait : Time.Duration := .ofSeconds 5
  sessionTimeout : Time.Duration := .zero
  keepAlive : Bool := true
  reuseAddress : Bool := true
  tls : Option TlsServer := none
  deriving DecidableEq, Inhabited

namespace ServerSettings

/-- The address on which the server listens. -/
def bindAddress (s : ServerSettings) : String := s.host ++ ":" ++ toString s.port

/-- Does the server take whole datagrams? -/
def isDatagram (s : ServerSettings) : Bool :=
  s.kind == .udp || (s.kind == .unix && s.socketType == .datagram)

/-! ## 1. Reading -/

open Decode

/-- What has been read of the settings of a TLS server. -/
structure TlsParts where
  certFile : Option String := none
  keyFile : Option String := none

/-- Reads the settings of a TLS server. -/
def decodeTls : Decoder TlsServer := fun d => do
  let expected := "struct TlsServerConfig"
  let parts : TlsParts ← fields expected
    [.of "cert_file" Decode.path fun x s => { s with certFile := some x },
      .of "key_file" Decode.path fun x s => { s with keyFile := some x }] {} d
  let certFile ← required d (expected ++ " with 2 elements") "cert_file" parts.certFile
  let keyFile ← required d (expected ++ " with 2 elements") "key_file" parts.keyFile
  return { certFile, keyFile }

/-- The parts of the settings. -/
def parts : List (FieldDecoder ServerSettings) :=
  [.of "kind" (name TransportKind.named) fun x s => { s with kind := x },
    .of "host" text fun x s => { s with host := x },
    .of "port" natural16 fun x s => { s with port := x },
    .of "path" Decode.path fun x s => { s with path := x },
    .of "socket_type" SocketType.decoder fun x s => { s with socketType := x },
    .of "charset" Charset.decoder fun x s => { s with charset := x },
    .of "delimiter" text fun x s => { s with delimiter := x },
    .of "max_frame_size" size fun x s => { s with maxFrameSize := x },
    .of "split_begin" text fun x s => { s with splitBegin := x },
    .of "split_end" text fun x s => { s with splitEnd := x },
    .of "backlog" natural32 fun x s => { s with backlog := x },
    .of "max_active_sessions" size fun x s => { s with maxActiveSessions := x },
    .of "overflow" OverflowPolicy.decoder fun x s => { s with overflow := x },
    .of "block_timeout" duration fun x s => { s with blockTimeout := x },
    .of "shutdown_wait" duration fun x s => { s with shutdownWait := x },
    .of "session_timeout" duration fun x s => { s with sessionTimeout := x },
    .of "keep_alive" boolean fun x s => { s with keepAlive := x },
    .of "reuse_address" boolean fun x s => { s with reuseAddress := x },
    .of "tls" (optional decodeTls) fun x s => { s with tls := x }]

/-- Reads the settings. -/
def decoder : Decoder ServerSettings := fields "struct ServerConfig" parts {}

instance : FromDocument ServerSettings := ⟨decoder⟩

/-! ## 2. What they must satisfy -/

/-- What the settings of the server `owner` must satisfy; the first fault in this order is told. -/
def check (s : ServerSettings) (owner : String) : Except ConfigError Unit :=
  if s.maxFrameSize == 0 then
    .error (.invalidValue "server" owner "max_frame_size" "must be greater than 0")
  else if s.kind == .unix && s.path.isEmpty then .error (.missingField "server" owner "path")
  else if s.kind == .tls && s.tls.isNone then .error (.missingField "server" owner "tls")
  else if s.kind.isConnectionOriented && s.delimiter.isEmpty then
    .error (.invalidValue "server" owner "delimiter"
      "stream transports need a non-empty delimiter")
  else .ok ()

end ServerSettings

end Syslog
