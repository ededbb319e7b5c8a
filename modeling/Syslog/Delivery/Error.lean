import Syslog.Configuration.Error
import Syslog.Modifier
import Syslog.Registry
import Syslog.Transport.Error

/-!
# Errors of a delivery

Why a message was not delivered, or a target not set up. An error of the configuration is the only
one that nothing on the way may hide.
-/

namespace Syslog

/-- Why a message was not delivered. -/
inductive DeliveryError where
  | config (error : ConfigError)
  | registry (error : RegistryError)
  | modifier (error : ModifierError)
  /-- The transport refused, and another attempt was no use. -/
  | transport (error : TransportError)
  /-- All attempts of a sender failed; the last one with the cause. -/
  | exhausted (sender : String) (attempts : Nat) (cause : TransportError)
  /-- Some targets of a multi failed. -/
  | multi (name : String) (failed : List String)
  | closed (name : String)

namespace DeliveryError

/-- The error in words. -/
def message : DeliveryError → String
  | config e => e.message
  | registry e => e.message
  | modifier e => e.message
  | transport e => e.message
  | exhausted sender attempts cause =>
    "delivery via " ++ sender ++ " failed after " ++ toString attempts ++ " attempts: " ++
      cause.message
  | multi name failed => "multi " ++ name ++ " failed for: " ++ ", ".intercalate failed
  | closed name => name ++ " is shut down"

/-- Is the configuration at fault? -/
def isConfig : DeliveryError → Bool
  | config _ | modifier (.invalid _) => true
  | _ => false

/-- Was a message refused because it came back to an instance that it had passed? -/
def isSelfDelegation : DeliveryError → Bool
  | config (.selfDelegation _) => true
  | _ => false

end DeliveryError

end Syslog
