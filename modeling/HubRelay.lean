import HubRelay.Configuration.Sample
import HubRelay.Configuration.Search
import HubRelay.Gateway
import HubRelay.Proofs.Encounter
import HubRelay.Proofs.Contest
import HubRelay.Proofs.Exchange.Fidelity
import HubRelay.Proofs.Exchange.Hubs
import HubRelay.Proofs.Exchange.Streams
import HubRelay.Proofs.Gateway
import HubRelay.Switchboard.Describe
import HubRelay.Proofs.Reassembly
import HubRelay.Proofs.Exchange.Lasting
import HubRelay.Proofs.Exchange.Routing
import HubRelay.Proofs.Exchange.Queues
import HubRelay.Proofs.Exchange.Elementary
import HubRelay.Proofs.Exchange.Rotation
import HubRelay.Proofs.Places
import HubRelay.Proofs.Isolation.Zones
import HubRelay.Proofs.Isolation.Confinement
import HubRelay.Proofs.Isolation.Renumbering
import HubRelay.Proofs.Isolation.View
import HubRelay.Proofs.Isolation.Membership
import HubRelay.Proofs.Isolation.Operations
import HubRelay.Proofs.Isolation.Requests
import HubRelay.Proofs.Isolation.Relays
import HubRelay.Proofs.Isolation.Actions
import HubRelay.Proofs.Isolation.Runs
import HubRelay.Proofs.Exchange.Delivery
import HubRelay.Proofs.Draining
import HubRelay.Proofs.Exchange.Parting
import HubRelay.Proofs.Envelope
import HubRelay.Proofs.Tagged
import HubRelay.Proofs.Channels
import HubRelay.Proofs.Interruption
import HubRelay.Proofs.Exchange.Acknowledgement
import HubRelay.Proofs.Web.Commands
import HubRelay.Proofs.Web.Visits
import HubRelay.Proofs.Configuration.Fields
import HubRelay.Proofs.Configuration.Precedence
import HubRelay.Proofs.Toml.Range
import HubRelay.Proofs.Configuration.Capacity
import HubRelay.Proofs.Web.Origins
import HubRelay.Proofs.Exchange.Telling
import HubRelay.Proofs.Exchange.Notices
import HubRelay.Proofs.Base64.Standard
import HubRelay.Proofs.BinaryBody
import HubRelay.Proofs.Utf8.Lossy
import HubRelay.Proofs.Web.Headers
import HubRelay.Proofs.Utf8.Order
import HubRelay.Proofs.Interest
import HubRelay.Proofs.Web.Listening
import HubRelay.Proofs.Switchboard.Halves
import HubRelay.Proofs.Switchboard.Pruning
import HubRelay.Proofs.Turns
import HubRelay.Proofs.Retention
import HubRelay.Proofs.Exchange.Footprint
