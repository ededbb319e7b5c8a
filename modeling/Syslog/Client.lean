import Syslog.Configuration
import Syslog.Delivery
import Syslog.Transport

/-!
# Networks from a configuration

The senders of a configuration are opened and registered in the order of their names, then the
multis. The first that fails ends it.
-/

namespace Syslog

namespace Sender

/-- Checks the settings, opens the transport, and makes the sender. -/
def establish (machine : Machine) (name : String) (settings : SenderSettings) :
    Except (Breakdown DeliveryError) Sender := do
  Breakdown.report ((settings.check name).mapError .config)
  let transport ← (Transport.establish machine name settings.transport settings.pool).mapError
    (·.map .transport)
  Breakdown.report ((Sender.make name settings machine.name { target := transport.target }
    (.ofSettings settings.backlog)).mapError .modifier)

end Sender

namespace Network

/-- Opens a sender and registers it, unless its name is taken. -/
def addSender (net : Network) (machine : Machine) (name : String) (settings : SenderSettings) :
    Except (Breakdown DeliveryError) Network := do
  if (net.registry.map (·.contains name)).getD false then
    .error (.reported (.registry (.duplicate (Registry.normalize name))))
  Breakdown.report (net.register name (.sender (← Sender.establish machine name settings)))

/-- The network of a configuration. -/
def ofConfiguration (machine : Machine) (now : Time.DateTime) (c : Configuration) :
    Except (Breakdown DeliveryError) Network := do
  let registry : Registry Nat := { suppressErrors := c.suppressErrors }
  let start : Network := { registry := some registry, now }
  let net ← c.senders.entries.foldlM
    (fun net (name, settings) => net.addSender machine name settings) start
  Breakdown.report (c.multis.entries.foldlM
    (fun net (name, settings) => net.register name (.multi name settings)) net)

end Network

end Syslog
