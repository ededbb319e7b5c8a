import Syslog.Configuration.Error
import Syslog.Names
import Syslog.Text.Blank
import Syslog.Text.Case

/-!
# Settings of a transport

How messages travel: over UDP, TCP, TLS or a UNIX socket, to which address, with which limits. Every
setting has a default.
-/

namespace Syslog

/-- The ways to travel. -/
inductive TransportKind where
  | udp
  | tcp
  | tls
  | unix
  deriving DecidableEq, Repr, Inhabited

namespace TransportKind

/-- The name in settings. -/
def name : TransportKind → String
  | udp => "udp"
  | tcp => "tcp"
  | tls => "tls"
  | unix => "unix"

/-- The name as it is shown among other things. -/
def word : TransportKind → String
  | udp => "Udp"
  | tcp => "Tcp"
  | tls => "Tls"
  | unix => "Unix"

/-- All kinds by name. -/
def named : List (String × TransportKind) := [udp, tcp, tls, unix].map fun k => (k.name, k)

/-- Does the kind keep a connection to an address? -/
def isConnectionOriented (k : TransportKind) : Bool := k == tcp || k == tls

end TransportKind

/-- The types of UNIX sockets. -/
inductive SocketType where
  | datagram
  | stream
  deriving DecidableEq, Repr, Inhabited

namespace SocketType

/-- The canonical name. -/
def name : SocketType → String
  | datagram => "SOCK_DGRAM"
  | stream => "SOCK_STREAM"

/-- The type that a text names. -/
def read (s : String) : Except ConfigError SocketType :=
  match Text.lowerAscii (Text.trim s) with
  | "sock_dgram" | "dgram" | "datagram" => .ok datagram
  | "sock_stream" | "stream" => .ok stream
  | _ => .error (.invalidSocketType s)

end SocketType

/-- The families of local sockets. -/
inductive SocketFamily where
  | unix
  deriving DecidableEq, Repr, Inhabited

namespace SocketFamily

/-- The canonical name. -/
def name : SocketFamily → String
  | unix => "AF_UNIX"

/-- The family that a text names. -/
def read (s : String) : Except ConfigError SocketFamily :=
  match Text.lowerAscii (Text.trim s) with
  | "af_unix" | "af_local" => .ok unix
  | _ => .error (.invalidSocketFamily s)

end SocketFamily

/-- Whom a TLS client trusts, and what it calls its peer. -/
structure TlsClient where
  caFile : Option String := none
  serverName : Option String := none
  deriving DecidableEq, Repr, Inhabited

/-- The port of the syslog service. -/
def defaultPort : Nat := 514

/-- The socket of the local syslog service. -/
def defaultPath : String := "/dev/log"

/-- What ends a message in a stream. -/
def defaultDelimiter : String := "\n"

/-- What marks the cut between the parts of a message. -/
def defaultMarker : String := "..."

/-- How messages travel. -/
structure TransportSettings where
  kind : TransportKind := .udp
  host : String := "localhost"
  port : Nat := defaultPort
  path : String := defaultPath
  socketType : SocketType := .datagram
  socketFamily : SocketFamily := .unix
  charset : Charset := .utf8
  connectTimeout : Time.Duration := .ofSeconds 5
  writeTimeout : Time.Duration := .ofSeconds 5
  writeRetries : Nat := 2
  maxMessageLength : Nat := 1024
  truncateMessage : Bool := false
  splitBegin : String := defaultMarker
  splitEnd : String := defaultMarker
  delimiter : String := defaultDelimiter
  keepAlive : Bool := true
  linger : Bool := true
  lingerTime : Time.Duration := .ofSeconds 1
  reuseAddress : Bool := true
  noDelay : Bool := true
  sendBufferSize : Option Nat := none
  tls : TlsClient := {}
  deriving DecidableEq, Inhabited

namespace TransportSettings

/-- The address of the peer. -/
def address (s : TransportSettings) : String := s.host ++ ":" ++ toString s.port

/-- Over a network kind, to an address. -/
def toAddress (kind : TransportKind) (host : String) (port : Nat) : TransportSettings :=
  { kind, host, port }

/-- To a UNIX socket. -/
def toPath (path : String) (socketType : SocketType) : TransportSettings :=
  { kind := .unix, path, socketType }

end TransportSettings

/-! ## Reading -/

open Decode

/-- Reads the settings of a TLS client. -/
def TlsClient.decoder : Decoder TlsClient :=
  fields "struct TlsClientConfig"
    [.of "ca_file" (optional Decode.path) fun x s => { s with caFile := x },
      .of "server_name" (optional text) fun x s => { s with serverName := x }] {}

/-- Reads a charset. -/
def Charset.decoder : Decoder Charset := parsed Charset.read NameError.message

/-- Reads the type of a socket. -/
def SocketType.decoder : Decoder SocketType := parsed SocketType.read ConfigError.message

namespace TransportSettings

/-- The parts of the settings. -/
def parts : List (FieldDecoder TransportSettings) :=
  [.of "kind" (name TransportKind.named) fun x s => { s with kind := x },
    .of "host" text fun x s => { s with host := x },
    .of "port" natural16 fun x s => { s with port := x },
    .of "path" Decode.path fun x s => { s with path := x },
    .of "socket_type" SocketType.decoder fun x s => { s with socketType := x },
    .of "socket_family" (parsed SocketFamily.read ConfigError.message)
      fun x s => { s with socketFamily := x },
    .of "charset" Charset.decoder fun x s => { s with charset := x },
    .of "connect_timeout" duration fun x s => { s with connectTimeout := x },
    .of "write_timeout" duration fun x s => { s with writeTimeout := x },
    .of "write_retries" natural32 fun x s => { s with writeRetries := x },
    .of "max_message_length" size fun x s => { s with maxMessageLength := x },
    .of "truncate_message" boolean fun x s => { s with truncateMessage := x },
    .of "split_begin" text fun x s => { s with splitBegin := x },
    .of "split_end" text fun x s => { s with splitEnd := x },
    .of "delimiter" text fun x s => { s with delimiter := x },
    .of "keep_alive" boolean fun x s => { s with keepAlive := x },
    .of "so_linger" boolean fun x s => { s with linger := x },
    .of "so_linger_time" duration fun x s => { s with lingerTime := x },
    .of "reuse_address" boolean fun x s => { s with reuseAddress := x },
    .of "nodelay" boolean fun x s => { s with noDelay := x },
    .of "send_buffer_size" (optional size) fun x s => { s with sendBufferSize := x },
    .of "tls" TlsClient.decoder fun x s => { s with tls := x }]

/-- Reads the settings. -/
def decoder : Decoder TransportSettings := fields "struct TransportConfig" parts {}

instance : FromDocument TransportSettings := ⟨decoder⟩

end TransportSettings

end Syslog
