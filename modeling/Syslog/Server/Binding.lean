import Syslog.Files
import Syslog.Framing.Delimited
import Syslog.Framing.Reassembler
import Syslog.Server.Error
import Syslog.Server.Settings
import Syslog.Transport.Dialer

/-!
# Where a server listens

A server listens on an address, or on a path at which it puts a socket. A socket that is left over
at the path is replaced, anything else there is not touched. A TLS server must have a certificate
and a key.
-/

namespace Syslog

/-- Where a server listens. -/
structure Place where
  name : String
  /-- The address; a path is none. -/
  address : Option String := none
  /-- The path of the socket, if the server has put one there. -/
  socketPath : Option String := none
  deriving DecidableEq, Repr, Inhabited

/-- There are certificates and a key. -/
def TlsServer.check (t : TlsServer) (machine : Machine) : Except TransportError Unit := do
  let count ← (machine.certificates t.certFile).mapError (TransportError.certificates t.certFile)
  if count = 0 then .error (.tls ("no certificates in " ++ t.certFile))
  (machine.privateKey t.keyFile).mapError fun reason =>
    .tls ("failed to load private key " ++ t.keyFile ++ ": " ++ reason)

namespace ServerSettings

/-- How a server cuts streams into messages. -/
def framing (s : ServerSettings) : Framing := .make (Text.Utf8.encode s.delimiter) s.maxFrameSize

/-- How a server joins datagrams to messages. -/
def reassembler (s : ServerSettings) : Reassembler String where
  markers := ⟨Text.Utf8.encode s.splitBegin, Text.Utf8.encode s.splitEnd⟩
  maxSize := s.maxFrameSize

/-- Listens on the address of the settings. -/
def listenOnAddress (machine : Machine) (s : ServerSettings) : Except ServerError Place := do
  let address ← (machine.resolve s.bindAddress).mapError (ServerError.bind s.bindAddress)
  let address ← (machine.bind address).mapError (ServerError.bind address)
  return { name := address, address := some address }

/-- Listens on the path of the settings, and puts a socket there. A socket that is left over is taken
away first, also if there is a reason why nobody can listen on the path. -/
def listenOnPath (machine : Machine) (files : Files) (s : ServerSettings) :
    Except ServerError Place × Files :=
  match files.entry s.path with
  | .file | .directory => (.error (.bind s.path "path exists and is not a socket"), files)
  | .absent | .socket =>
    match machine.bind s.path with
    | .error reason => (.error (.bind s.path reason), files.remove s.path)
    | .ok path => (.ok { name := path, socketPath := some s.path }, files.put s.path .socket)

/-- Listens where the settings say. -/
def listen (machine : Machine) (files : Files) (s : ServerSettings) (owner : String) :
    Except ServerError Place × Files :=
  match s.kind with
  | .udp | .tcp => (s.listenOnAddress machine, files)
  | .tls =>
    match s.tls with
    | some tls =>
      ((tls.check machine).mapError .transport >>= fun _ => s.listenOnAddress machine, files)
    | none => (.error (.config (.missingField "server" owner "tls")), files)
  | .unix => s.listenOnPath machine files

end ServerSettings

end Syslog
