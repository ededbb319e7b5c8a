import Syslog.Client
import Syslog.CommandLine.Arguments
import Syslog.CommandLine.Send
import Syslog.CommandLine.Serve
import Syslog.Configuration.Builder
import Syslog.Event.Reader
import Syslog.Fleet
import Syslog.Framing.Delimited
import Syslog.Framing.Reassembler
import Syslog.Json
import Syslog.Main
import Syslog.Modifier.Chain
import Syslog.Proofs.Configuration
import Syslog.Proofs.Delivery.Cycles
import Syslog.Proofs.Delivery.FanOut
import Syslog.Proofs.Delivery.Fate
import Syslog.Proofs.Delivery.Faults
import Syslog.Proofs.Digest
import Syslog.Proofs.Framing.Ending
import Syslog.Proofs.Framing.Growth
import Syslog.Proofs.Framing.Recovery
import Syslog.Proofs.Framing.Splitting
import Syslog.Proofs.Framing.Stream
import Syslog.Proofs.Message.Priority
import Syslog.Proofs.Modifier.Chain
import Syslog.Proofs.Modifier.Counter
import Syslog.Proofs.Modifier.Sequence
import Syslog.Proofs.Modifier.Signer
import Syslog.Proofs.Pool.Accounts
import Syslog.Proofs.Pool.Eviction
import Syslog.Proofs.Registry.Bindings
import Syslog.Proofs.Server.Delivery
import Syslog.Proofs.Server.Fleet
import Syslog.Proofs.Server.Lifecycle
import Syslog.Proofs.Server.Numbers
import Syslog.Proofs.Text.Base64
import Syslog.Proofs.Text.Case
import Syslog.Proofs.Transport.Borrowed
import Syslog.Proofs.Transport.Closing
import Syslog.Registry
import Syslog.Report.Delivery
import Syslog.Report.Server
import Syslog.Report.State
import Syslog.Report.Transport
import Syslog.Sender.Edit.Reader
