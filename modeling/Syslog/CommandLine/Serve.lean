import Syslog.CommandLine.Load
import Syslog.Fleet
import Syslog.Log.Filter

/-!
# Running servers from the command line

The program opens its log, starts all servers of a configuration, with a handler that logs what they
receive, and says in the log where each of them listens.
-/

namespace Syslog.CommandLine

/-- The handler that logs every event. -/
def loggingHandler : EventHandler := { name := "tracing" }

/-- The part of the program that tells of its servers. -/
def serveTarget : String := "syslane::cmd::serve"

/-- The part of the program that logs what is received. -/
def handlerTarget : String := "syslane_server::handler"

/-- What the program can tell of where a server listens. -/
def listeningFields : List String := ["message", "server", "kind", "address"]

/-- What the program can tell of what is received. -/
def handlerFields : List String :=
  ["message", "server", "peer", "facility", "severity", "host", "app", "structured"]

/-- Opens the log, if it is a file. -/
def openLog (machine : Machine) (log : LogSettings) : Except Failure Unit :=
  match log.output with
  | .file path => (machine.openLog path).mapError (Failure.unopenedLog path)
  | .stdout | .stderr => .ok ()

/-- The servers of a configuration, started on a file system. -/
def startServers (machine : Machine) (files : Files) (config : Option Configuration) :
    Except (Breakdown Failure) Fleet := do
  match config with
  | none =>
    .error (.reported (.because "serve needs --config with at least one [servers.*] entry" []))
  | some config =>
    if config.servers.isEmpty then .error (.reported (.because "no servers configured" []))
    let fleet ← Breakdown.report
      ((Fleet.ofConfiguration config ⟨[loggingHandler]⟩).mapError fun e =>
        .because "failed to create servers" e.chain)
    match { fleet with files }.startAll machine with
    | (.ok (), fleet) => return fleet
    | (.error e, _) => .error (e.map fun e => .because "failed to start servers" e.chain)

/-- A program that serves. -/
structure Serving where
  log : LogSettings
  filter : LogFilter
  fleet : Fleet

namespace Serving

/-- Starts serving, with a configuration from a file and a level for the log. -/
def start (machine : Machine) (files : Files)
    (texts : String → Option (Except String String)) (config logLevel : Option String) :
    Except (Breakdown Failure) Serving := do
  let config ← Breakdown.report (config.mapM fun path => load path (texts path))
  let log := (config.map (·.log)).getD {}
  Breakdown.report (openLog machine log)
  let fleet ← startServers machine files config
  return { log, filter := .read (logLevel.getD log.level.name), fleet }

/-- What the log says of the servers that listen. -/
def listening (s : Serving) : List LogRecord :=
  if s.filter.allows serveTarget listeningFields .info then
    s.fleet.servers.instances.entries.map fun (key, server) =>
      { level := .info
        fields :=
          [("message", "listening"), ("server", key), ("kind", server.settings.kind.name),
            ("address", server.address.getD server.settings.bindAddress)] }
  else []

/-- What the log says of a call of the logging handler. -/
def record? (s : Serving) : CallRecord → Option LogRecord
  | ⟨_, .event session event, _⟩ =>
    if s.filter.allows handlerTarget handlerFields .info then
      some
        { level := .info
          fields :=
            [("message", event.message), ("server", session.server), ("peer", session.peer)] ++
              (event.facility.map fun f => ("facility", f.name)).toList ++
              (event.severity.map fun s => ("severity", s.name)).toList ++
              (event.host.map ("host", ·)).toList ++ (event.appName.map ("app", ·)).toList ++
              [("structured", if event.structured then "true" else "false")] }
    else none
  | _ => none

/-! ### While it serves -/

/-- Something happens to a server. Gives the records of the log that come of it; the calls that were
made are forgotten then. -/
def change (key : String) (f : Server → Server) (s : Serving) : List LogRecord × Serving :=
  match s.fleet.servers.instances.get? key with
  | some earlier =>
    let server := f earlier
    let records := (server.callsSince earlier).filterMap s.record?
    let server := { server with journal.calls := [] }
    let instances := s.fleet.servers.instances.insert key server
    (records, { s with fleet.servers.instances := instances })
  | none => ([], s)

/-- A server of the program. -/
def server? (s : Serving) (key : String) : Option Server := s.fleet.servers.instances.get? key

/-- All servers are shut down. Gives the records of the log that come of it, and tells whether that
comes to an end. -/
def shutdown (s : Serving) : (List LogRecord × Bool) × Serving :=
  let (ended, fleet) := s.fleet.shutdownAll
  (((fleet.calls.drop s.fleet.calls.length).filterMap s.record?, ended), { s with fleet })

end Serving

end Syslog.CommandLine
