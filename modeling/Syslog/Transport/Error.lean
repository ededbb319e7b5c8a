import Syslog.Time.Duration

/-!
# Errors of transports

What can go wrong between a sender and its peer. Four of the errors are of the connection: another
try may succeed.
-/

namespace Syslog

/-- A fault that the system reports for a connection or a socket. -/
inductive LinkFault where
  | connectionReset
  | connectionAborted
  | brokenPipe
  | timedOut
  | other (name : String)
  deriving DecidableEq, Repr

namespace LinkFault

/-- The fault of a name. -/
def ofName : String → LinkFault
  | "ConnectionReset" => connectionReset
  | "ConnectionAborted" => connectionAborted
  | "BrokenPipe" => brokenPipe
  | "TimedOut" => timedOut
  | name => other name

/-- Has the peer gone away? -/
def isReset : LinkFault → Bool
  | connectionReset | connectionAborted | brokenPipe => true
  | timedOut | other _ => false

/-- Has the peer not answered for too long? -/
def isTimeout (f : LinkFault) : Bool := f == timedOut

end LinkFault

/-- Why a transport fails. -/
inductive TransportError where
  | connectionFailed (target reason : String)
  | writeFailed (reason : String)
  | timeout (after : Time.Duration)
  | tls (reason : String)
  | poolExhausted (waited : Time.Duration)
  | poolClosed
  | closed
  | invalid (reason : String)
  deriving DecidableEq, Repr, Inhabited

namespace TransportError

/-- The error in words. -/
def message : TransportError → String
  | connectionFailed target reason => "connection failed to " ++ target ++ ": " ++ reason
  | writeFailed reason => "write failed: " ++ reason
  | timeout after => "operation timed out after " ++ after.render
  | tls reason => "tls error: " ++ reason
  | poolExhausted waited => "connection pool exhausted after waiting " ++ waited.render
  | poolClosed => "connection pool closed"
  | closed => "transport closed"
  | invalid reason => "invalid transport configuration: " ++ reason

/-- Is the error one of the connection? -/
def isConnectionError : TransportError → Bool
  | connectionFailed .. | writeFailed _ | timeout _ | tls _ => true
  | poolExhausted _ | poolClosed | closed | invalid _ => false

end TransportError

end Syslog
