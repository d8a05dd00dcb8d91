import Wiring.Naming
import Wiring.TypeHierarchy
import Wiring.Json.Reader
import Wiring.Document.Codec
import Wiring.Document.Topology
import Wiring.Consistency
import Wiring.Draft
import Wiring.Resolution
import Wiring.Outcome
import Wiring.Lifecycle
import Wiring.FlowError
import Wiring.StateSelection
import Wiring.Wizard
import Wiring.Document.Flow
import Wiring.Yaml.Text
import Wiring.Yaml.Token
import Wiring.Yaml.Scalar
import Wiring.Digits
import Wiring.Yaml.Tag
import Wiring.Yaml.Scan
import Wiring.Yaml.Event
import Wiring.Yaml.Node
import Wiring.Yaml.Place
import Wiring.TopologyFile
import Wiring.CommandLine.Run
import Wiring.Main
import Wiring.Proofs.Capacity
import Wiring.Proofs.Wizard.NameCoherence
import Wiring.Proofs.Wizard.TerminalSignal
import Wiring.Proofs.Wizard.Creation
import Wiring.Proofs.Wizard.InFlight
import Wiring.Proofs.Json.RoundTrip
import Wiring.Proofs.Document.Faithful
import Wiring.Proofs.Wizard.Preselection
import Wiring.Proofs.CommandLine.Relating
import Wiring.Proofs.Document.RoundTrip
import Wiring.Proofs.Wizard.Commuting
import Wiring.Proofs.Wizard.Delivery
import Wiring.Proofs.StateSelection
import Wiring.Proofs.Wizard.Overriding
import Wiring.Proofs.Closing
import Wiring.Proofs.Document.ByContent
import Wiring.Proofs.Loading
import Wiring.Proofs.Wizard.Failing
import Wiring.Proofs.Wizard.Opening
import Wiring.Proofs.Wizard.Refusal
import Wiring.Proofs.Narrowing
import Wiring.Proofs.Wizard.Progress
import Wiring.Proofs.Tally
import Wiring.Proofs.Drafting
import Wiring.Proofs.Naming
