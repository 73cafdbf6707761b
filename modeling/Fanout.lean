import Fanout.Main
import Fanout.Proofs.Mailbox
import Fanout.Proofs.Network.Closing
import Fanout.Proofs.Network.Fallback
import Fanout.Proofs.Network.Loss
import Fanout.Publisher
import Fanout.Proofs.Json.Grammar
import Fanout.Proofs.Json.Members
import Fanout.Proofs.Json.Schema
import Fanout.Proofs.Envelope.Grammar
import Fanout.Proofs.Http.Request
import Fanout.Proofs.Http.Site
import Fanout.Proofs.Http.Tracking
import Fanout.Proofs.Http.Subscriptions
import Fanout.Proofs.Http.Framing
import Fanout.Proofs.Http.Recovery
import Fanout.Proofs.Bus.Single
import Fanout.Proofs.Network.Alone
import Fanout.Proofs.Network.Isolation
import Fanout.Proofs.Envelope.Canonical
import Fanout.Proofs.Network.Shape
import Fanout.Proofs.Network.Substitution
import Fanout.Proofs.Network.Insertion
import Fanout.Proofs.Network.Torn
import Fanout.Proofs.Event.Readers
import Fanout.Proofs.Event.Extent
import Fanout.Proofs.Bus.Subscription
import Fanout.Proofs.Network.Listening
import Fanout.Proofs.Config.Capacity
import Fanout.Proofs.Http.Admission
import Fanout.Proofs.Event.Printed
import Fanout.Proofs.Http.Lines
import Fanout.Proofs.Publisher
import Fanout.Proofs.Network.Drained
import Fanout.Proofs.Network.Signs
import Fanout.Proofs.Network.Emission
