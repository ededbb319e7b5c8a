import Syslog.Configuration.Error
import Syslog.Registry
import Syslog.Transport.Error

/-!
# States and errors of a server

A server is stopped, running or shutting down. What can fail is to set it up and to start it; what
happens to its sessions is counted and never an error of the server.
-/

namespace Syslog

/-- How far a server has got. -/
inductive ServerState where
  | stopped
  | running
  | shuttingDown
  deriving DecidableEq, Repr, Inhabited

namespace ServerState

/-- The state in words. -/
def name : ServerState → String
  | stopped => "stopped"
  | running => "running"
  | shuttingDown => "shutting down"

/-- The state as one word. -/
def word : ServerState → String
  | stopped => "Stopped"
  | running => "Running"
  | shuttingDown => "ShuttingDown"

end ServerState

/-- Why a server cannot be set up or started. -/
inductive ServerError where
  | config (error : ConfigError)
  | registry (error : RegistryError)
  | transport (error : TransportError)
  | bind (address reason : String)
  | invalidState (name : String) (state : ServerState)

/-- The error in words. -/
def ServerError.message : ServerError → String
  | config e => e.message
  | registry e => e.message
  | transport e => e.message
  | bind address reason => "failed to bind " ++ address ++ ": " ++ reason
  | invalidState name state => "server " ++ name ++ " is " ++ state.name

end Syslog
