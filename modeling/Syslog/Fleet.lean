import Syslog.Configuration
import Syslog.Server

/-!
# Fleets of servers

A fleet is a registry of servers on one file system, with the calls of handlers that they have made
together, in order. Servers are started in the order of their names. If one reports that it cannot
be started, those that were started before are shut down again; if one breaks off, or does not get
any further, nobody shuts them down. While one server shuts down, the loops of the others run on.
-/

namespace Syslog

/-- Servers by name. -/
structure Fleet where
  servers : Registry Server := {}
  calls : List CallRecord := []
  files : Files := {}

namespace Fleet

/-! ## 1. Building -/

/-- Adds a stopped server. -/
def create (name : String) (settings : ServerSettings) (handlers : HandlerList) (f : Fleet) :
    Except ServerError Fleet := do
  let server ← Server.make name settings
  let servers ← (f.servers.register name { server with handlers }).mapError .registry
  return { f with servers }

/-- The fleet of a configuration. -/
def ofConfiguration (c : Configuration) (handlers : HandlerList) : Except ServerError Fleet :=
  c.servers.entries.foldlM (fun f (name, settings) => f.create name settings handlers) {}

/-- The fleet with a server that has changed. -/
def put (f : Fleet) (key : String) (earlier server : Server) : Fleet where
  servers := { f.servers with instances := f.servers.instances.insert key server }
  calls := f.calls ++ server.callsSince earlier
  files := f.files

/-- Runs the loops of all servers. -/
def settle (f : Fleet) : Fleet :=
  f.servers.instances.entries.foldl (fun f (key, server) => f.put key server server.settle) f

/-! ## 2. Starting and stopping -/

/-- The loops of servers begin; gives the servers, and the calls that were made. -/
def settleEach : List Server → List Server × List CallRecord
  | [] => ([], [])
  | server :: rest =>
    let settled := server.settle
    let (rest, calls) := settleEach rest
    (settled :: rest, settled.callsSince server ++ calls)

/-- How it goes when servers are shut down. -/
structure Closure where
  /-- Have all of them come to their end? -/
  ended : Bool := true
  servers : List Server
  /-- The calls that were made. -/
  calls : List CallRecord := []
  files : Files

/-- Shuts servers down, one after the other, until one does not get any further. -/
def shutdownEach : Nat → Files → List Server → Closure
  | n + 1, files, server :: rest =>
    let ending := server.beginShutdown
    let (rest, settling) := settleEach rest
    let (stopped, files) := ending.finishShutdown files
    let calls := ending.callsSince server ++ settling ++ stopped.callsSince ending
    if stopped.isLocked then { ended := false, servers := stopped :: rest, calls, files }
    else
      let others := shutdownEach n files rest
      { others with servers := stopped :: others.servers, calls := calls ++ others.calls }
  | _, files, servers => { servers, files }

/-- Starts servers until one cannot be started; if that is reported, shuts down those that were
started before. Each server finds a machine of its own, since servers listen on the same one: where
one listens another may find no place. -/
def startEach (machines : String → Machine) :
    List (String × Server) → List (String × Server) → Fleet →
      Except (Breakdown ServerError) Unit × Fleet
  | [], _, f => (.ok (), f)
  | (key, server) :: rest, started, f =>
    match server.start (machines key) f.files with
    | (.ok (), running, files) =>
      startEach machines rest (started ++ [(key, running)])
        ({ f with files }.put key server running)
    | (.error (.reported e), server', files) =>
      let f := f.put key server server'
      let closure := shutdownEach started.length files (started.map (·.2))
      let instances := ((started.map (·.1)).zip closure.servers).foldl
        (fun d (key, server) => d.insert key server) f.servers.instances
      (.error (if closure.ended then .reported e else .pending),
        { servers := { f.servers with instances }
          calls := f.calls ++ closure.calls
          files := closure.files })
    | (.error other, server', files) =>
      (.error other, { f with files }.put key server server')

/-- The servers that the names in the registry stand for, in the order of the names. -/
def members (f : Fleet) : List (String × Server) :=
  f.servers.names.filterMap fun name => (f.servers.get? name).map (name, ·)

/-- Starts all servers, each with what it finds, or none. -/
def startOn (machines : String → Machine) (f : Fleet) :
    Except (Breakdown ServerError) Unit × Fleet := startEach machines f.members [] f

/-- Starts all servers, or none. -/
def startAll (machine : Machine) (f : Fleet) : Except (Breakdown ServerError) Unit × Fleet :=
  f.startOn fun _ => machine

/-- Takes all servers out of the registry, and shuts them down. Tells whether that comes to an end. -/
def shutdownAll (f : Fleet) : Bool × Fleet :=
  let (entries, servers) := f.servers.drain
  let closure := shutdownEach entries.length f.files (entries.map (·.2))
  (closure.ended, { servers, calls := f.calls ++ closure.calls, files := closure.files })

end Fleet

end Syslog
