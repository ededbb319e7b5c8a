import Std.Async.DNS
import Std.Async.Signal
import Std.Async.System
import Std.Async.TCP
import Std.Async.Timer
import Std.Async.UDP
import Std.Time
import Syslog.CommandLine.Send
import Syslog.CommandLine.Serve
import Syslog.Log.Render

/-!
# The program

Reads the command line, does what it says with the sockets and files of the machine, and ends with 0
if that went well, with 1 if it failed, with 2 if the command line cannot be read, and with 101 if
the work broke off. Only UDP and TCP can be reached from here.
-/

open Std.Async Std.Net

namespace Syslog.CommandLine

/-! ## 1. The machine -/

/-- What is said where the machine has no such socket. -/
def unavailable : String := "not available on this machine"

/-- Bytes as the machine takes them. -/
def packed (bytes : Bytes) : ByteArray := ⟨bytes.toArray⟩

/-- The result of an action, or why it failed. -/
def attempt {α : Type} (action : IO α) : IO (Except String α) := do
  try
    return .ok (← action)
  catch e => return .error (toString e)

/-- The moment. -/
def moment : IO Time.DateTime := do
  let nanoseconds := (← Std.Time.Timestamp.now).toNanosecondsSinceUnixEpoch.val
  let fraction := (nanoseconds % 1000000000).toNat
  return (Time.DateTime.ofUnix? (nanoseconds / 1000000000) fraction).getD .epoch

/-- The text of a file, or why it cannot be read; nothing if there is no such file. -/
def readFile (path : String) : IO (Option (Except String String)) := do
  try
    match String.fromUTF8? (← IO.FS.readBinFile path) with
    | some text => return some (.ok text)
    | none => return some (.error "stream did not contain valid UTF-8")
  catch
    | .noFileOrDirectory .. => return none
    | e => return some (.error (toString e))

/-- The socket address that a name and a port stand for. -/
def locate (address : String) : IO SocketAddress := do
  let parts := address.splitOn ":"
  let port := parts.getLastD ""
  let host := ":".intercalate parts.dropLast
  let some number := port? port | throw (IO.userError "invalid port value")
  let found : Array IPAddr ← (DNS.getAddrInfo host port).block
  match found.toList with
  | .v4 addr :: _ => return .v4 ⟨addr, number.toUInt16⟩
  | .v6 addr :: _ => return .v6 ⟨addr, number.toUInt16⟩
  | [] => throw (IO.userError "no address found")

/-- How often a text stands in another one. -/
def occurrences (part text : String) : Nat := (text.splitOn part).length - 1

/-- What is known of the files of a TLS peer, which are looked up in a table. -/
def fileFacts (files : List (String × Option (Except String String))) (path : String) :
    Except String String :=
  ((files.lookup path).getD none).getD (.error "No such file or directory")

/-- Asks the machine what must be known of the given addresses and files. -/
def survey (addresses files : List String) : IO Machine := do
  let found ← addresses.mapM fun a => return (a, (← attempt (locate a)).map toString)
  let texts ← files.mapM fun path => return (path, ← readFile path)
  let name ← attempt System.getHostName
  return {
    name := name.toOption.getD "localhost"
    certificates := fun path =>
      (fileFacts texts path).map (occurrences "-----BEGIN CERTIFICATE-----")
    privateKey := fun path => do
      if occurrences "PRIVATE KEY-----" (← fileFacts texts path) = 0 then
        .error "no private key found"
    resolve := fun a => (found.lookup a).getD (.error "unknown address") }

/-! ## 2. The log -/

/-- Where the log goes. -/
structure LogSink where
  format : LogFormat := .console
  filter : LogFilter
  put : String → IO Unit

/-- Opens the log. -/
def LogSink.start (log : LogSettings) (level : Option String) : IO (Except Failure LogSink) := do
  let filter := LogFilter.read (level.getD log.level.name)
  let onto (stream : IO.FS.Stream) : LogSink :=
    { format := log.format, filter, put := fun line => do stream.putStrLn line; stream.flush }
  match log.output with
  | .stdout => return .ok (onto (← IO.getStdout))
  | .stderr => return .ok (onto (← IO.getStderr))
  | .file path =>
    match ← attempt (IO.FS.Handle.mk path .append) with
    | .ok file => return .ok (onto (.ofHandle file))
    | .error reason => return .error (.unopenedLog path reason)

/-- Writes the records of a part of the program that the filter lets through. -/
def LogSink.write (sink : LogSink) (part : String) (records : List LogRecord) : IO Unit := do
  for r in records do
    if sink.filter.allows part (r.fields.map (·.1)) r.level then
      sink.put (r.render sink.format (← moment) part)

/-! ## 3. Sending -/

/-- Puts what is on a wire on the sockets of the machine. -/
def transmit (s : TransportSettings) (w : Wire) : IO (Except TransportError Unit) := do
  match ← attempt (locate s.address) with
  | .error reason => return .error (.connectionFailed s.target reason)
  | .ok address =>
    for datagram in w.datagrams do
      let sent ← attempt do
        let socket ← UDP.Socket.mk
        socket.connect address
        (socket.send (packed datagram)).block
      if let .error reason := sent then return .error (.writeFailed reason)
    for bytes in w.streams do
      let client ← TCP.Socket.Client.mk
      if let .error reason ← attempt (client.connect address).block then
        return .error (.connectionFailed s.target reason)
      let sent ← attempt do
        (client.send (packed bytes)).block
        client.shutdown.block
      if let .error reason := sent then return .error (.writeFailed reason)
    return .ok ()

/-- A sender writes a message. -/
def perform (machine : Machine) (s : Sender) (payload : Bytes) :
    IO (Except TransportError Unit) := do
  let settings := s.settings.transport
  if settings.kind == .tls || settings.kind == .unix then
    return .error (.connectionFailed settings.target unavailable)
  match Transport.establish machine s.name settings s.settings.pool with
  | .error (.reported e) => return .error e
  | .error .brokenOff | .error .pending => return .error .closed
  | .ok t =>
    match t.write payload .zero {} with
    | (.ok (), _, w) => transmit settings w
    | (.error e, _, _) => return .error e

/-- The sender of a name. -/
def Sending.sender? (s : Sending) (name : String) : Option Sender :=
  s.network.targets.findSome? fun
    | .sender sender => if sender.name == name then some sender else none
    | _ => none

/-- Does one write after the other, and learns how they end, until the message is sent. -/
partial def Sending.run (machine : Machine) (sink : LogSink) (s : Sending) (answers : List Answer) :
    IO (Except Failure Unit) := do
  match s.next answers with
  | .ended result log =>
    sink.write backlogTarget log
    return result
  | .write name payload =>
    let outcome ← match s.sender? name with
      | some sender => perform machine sender payload
      | none => pure (.error .closed)
    s.run machine sink (answers ++ [⟨name, outcome⟩])

/-- The addresses and the files that senders name. -/
def senderPlaces (senders : List SenderSettings) : List String × List String :=
  (senders.map (·.transport.address), senders.filterMap (·.transport.tls.caFile))

/-- Sends a message. -/
def send (sink : LogSink) (a : SendArguments) (config : Option Configuration) :
    IO (Except (Breakdown Failure) Unit) := do
  let changed := config.map fun c =>
    ((a.configure (a.target.getD "") c).toOption.map (·.1)).getD c
  let senders := ((changed.map (·.senders.values)).getD []) ++ a.sender.toOption.toList
  let (addresses, files) := senderPlaces senders
  let machine ← survey addresses files
  match Sending.start machine (← moment) a config with
  | .ok s => return Breakdown.report (← s.run machine sink [])
  | .error f => return .error f

/-! ## 4. Serving -/

/-- The program while it serves. -/
structure Hub where
  serving : IO.Ref Serving
  connections : IO.Ref Nat
  sink : LogSink

namespace Hub

/-- Something happens to a server. -/
def change (h : Hub) (key : String) (f : Server → Server) : IO Unit := do
  h.sink.write handlerTarget (← h.serving.modifyGet (·.change key f))

/-- What is true of a server. -/
def ask (h : Hub) (key : String) (what : Server → Bool) : IO Bool := do
  return (((← h.serving.get).server? key).map what).getD false

/-- The name of a peer. -/
def peerName (client : TCP.Socket.Client) : IO String := do
  try return toString (← client.getPeerName) catch _ => return ""

/-- Serves one connection until it ends. -/
partial def serveConnection (h : Hub) (key : String) (n : Nat) (client : TCP.Socket.Client) :
    Async Unit := do
  if ← h.ask key (·.isQueued n) then
    sleep 20
    h.serveConnection key n client
  else if ← h.ask key (·.isServing n) then
    let event ← Selectable.one #[
      .case (client.recvSelector 65536) fun bytes => return some bytes,
      .case (← Selector.sleep 100) fun _ => return none]
    match event with
    | some (some bytes) =>
      h.change key (·.feed n bytes.toList)
      h.serveConnection key n client
    | some none => h.change key (·.finish n)
    | none => h.serveConnection key n client
  else client.shutdown

/-- Accepts connections. -/
partial def acceptConnections (h : Hub) (key : String) (server : TCP.Socket.Server) :
    Async Unit := do
  let client ← server.accept
  let n ← h.connections.modifyGet fun n => (n, n + 1)
  h.change key (·.connect n (← peerName client))
  background (h.serveConnection key n client)
  h.acceptConnections key server

/-- Receives datagrams. -/
partial def receiveDatagrams (h : Hub) (key : String) (socket : UDP.Socket) : Async Unit := do
  let (bytes, peer) ← socket.recv 65536
  h.change key (·.datagram ((peer.map toString).getD "") bytes.toList)
  h.receiveDatagrams key socket

/-- Lets the servers know how time passes. -/
partial def keepTime (h : Hub) (keys : List String) : Async Unit := do
  sleep 20
  for key in keys do
    h.change key (·.pass (.ofMillis 20))
  h.keepTime keys

end Hub

/-- A socket on which a server listens. -/
inductive Listener where
  | stream (server : TCP.Socket.Server)
  | datagram (socket : UDP.Socket)

/-- Listens as the settings of a server say. Gives the address on which it then listens. -/
def listen (s : ServerSettings) : IO (Listener × String) := do
  match s.kind with
  | .tcp =>
    let server ← TCP.Socket.Server.mk
    server.bind (← locate s.bindAddress)
    server.listen s.backlog.toUInt32
    return (.stream server, toString (← server.getSockName))
  | .udp =>
    let socket ← UDP.Socket.mk
    socket.bind (← locate s.bindAddress)
    return (.datagram socket, toString (← socket.getSockName))
  | .tls | .unix => throw (IO.userError unavailable)

/-- Waits until the program is told to end. -/
def waitForEnd : Async Unit := do
  let interrupt ← Signal.Waiter.mk .sigint false
  let terminate ← Signal.Waiter.mk .sigterm false
  Selectable.one #[.case interrupt.selector pure, .case terminate.selector pure]

/-- Runs servers until the program is told to end. -/
def serve (sink : LogSink) (config level : Option String) (loaded : Option Configuration)
    (files : String → Option (Except String String)) : IO (Except (Breakdown Failure) Unit) := do
  let servers := (loaded.map (·.servers.entries)).getD []
  let listeners ← servers.mapM fun (key, s) => return (key, s, ← attempt (listen s))
  let tlsFiles := servers.flatMap fun (_, s) => (s.tls.map fun t => [t.certFile, t.keyFile]).getD []
  let machine ← survey (servers.map (·.2.bindAddress)) tlsFiles
  let bind := fun address =>
    let isHere := fun (s : ServerSettings) =>
      (machine.resolve s.bindAddress).toOption == some address
    match listeners.find? fun (_, s, _) => isHere s with
    | some (_, _, listener) => listener.map (·.2)
    | none => .error unavailable
  match Serving.start { machine with bind } {} files config level with
  | .error f => return .error f
  | .ok serving =>
    sink.write serveTarget serving.listening
    let h : Hub := ⟨← IO.mkRef serving, ← IO.mkRef 0, sink⟩
    let keys := serving.fleet.servers.names
    for (key, _, listener) in listeners do
      let key := Registry.normalize key
      h.change key Server.settle
      match listener with
      | .ok (.stream server, _) => (background (h.acceptConnections key server)).block
      | .ok (.datagram socket, _) => (background (h.receiveDatagrams key socket)).block
      | .error _ => pure ()
    (background (h.keepTime keys)).block
    waitForEnd.block
    let (records, ended) ← h.serving.modifyGet Serving.shutdown
    sink.write handlerTarget records
    return if ended then .ok () else .error .pending

/-! ## 5. The command line -/

/-- What is said to who asks for help. -/
def help : String :=
  "syslog delivery and reception engine\n\n" ++
    "Usage: syslane [OPTIONS] <COMMAND>\n\n" ++
    "Commands:\n" ++
    "  serve  Run the configured syslog servers\n" ++
    "  send   Send one message and exit\n\n" ++
    "Options:\n" ++
    "  -c, --config <CONFIG>        Path to configuration file\n" ++
    "  -l, --log-level <LOG_LEVEL>  Log level (trace, debug, info, warn, error)\n" ++
    "  -h, --help                   Print help\n" ++
    "  -V, --version                Print version\n"

/-- Runs a command. -/
def Command.run (config level : Option String) (c : Command) :
    IO (Except (Breakdown Failure) Unit) := do
  let file ← config.mapM readFile
  match config.mapM fun path => load path (file.getD none) with
  | .error f => return .error (.reported f)
  | .ok loaded =>
    match ← LogSink.start ((loaded.map (·.log)).getD {}) level with
    | .error f => return .error (.reported f)
    | .ok sink =>
      match c with
      | .send a => CommandLine.send sink a loaded
      | .serve => CommandLine.serve sink config level loaded fun _ => file.getD none

/-- Does what the command line says, and gives the status with which the program ends. -/
def main (args : List String) : IO UInt32 := do
  match read args with
  | .error message =>
    IO.eprintln ("error: " ++ message ++ "\n\nFor more information, try '--help'.")
    return 2
  | .ok .help =>
    IO.print help
    return 0
  | .ok .version =>
    IO.println "syslane 0.1.0"
    return 0
  | .ok (.run config level command) =>
    match ← command.run config level with
    | .ok () => return 0
    | .error (.reported f) =>
      IO.eprint f.render
      return 1
    | .error .brokenOff =>
      IO.eprintln "error: there are more permits than can be counted"
      return 101
    | .error .pending =>
      waitForEnd.block
      return 1

end Syslog.CommandLine

/-- The program. -/
def main (args : List String) : IO UInt32 := Syslog.CommandLine.main args
