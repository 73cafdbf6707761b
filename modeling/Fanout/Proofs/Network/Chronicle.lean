import Fanout.Proofs.Bus.Reader
import Fanout.Proofs.Envelope
import Fanout.Proofs.Network.Run
import Fanout.Proofs.Network.Wiring

/-! The history of a run, kept beside the network. The writes on every channel are numbered in their
order. For each client there is what its broker offered it: the messages that its queue gained and
the places of those that it had no room for, each with the number of the write it came from. -/

namespace Fanout

structure Write where
  channel : String
  /-- What was published, nothing where no broker of the network wrote. -/
  event : Option (Event Payload)
  message : Bytes

namespace Network

/-- The hub behind the first bus. -/
def hub (network : Network) : Hub := network.fabric.hubs[0]?.getD (.new 0)

/-- The write that a step makes: a publish that passes serialization on a running broker, or one
from elsewhere. -/
def write? (network : Network) : Step → Option Write
  | .publish index event => do
    let broker ← network.brokers[index]?
    let envelope ← (Envelope.sealEvent event).toOption
    if broker.closed then none else some ⟨broker.channel, some event, envelope.encode⟩
  | .write channel message => some ⟨channel, none, message⟩
  | _ => none

/-- The item that the loop of a broker would read now. -/
def read? (network : Network) (index : Nat) : Option BusItem := do
  let broker ← network.brokers[index]?
  let stream ← broker.inbound.stream?
  (network.fabric.next stream).value.2.item?

/-- The item that the loop of a broker reads in a step. -/
def item? (network : Network) (index : Nat) : Step → Option BusItem
  | .turn turning => if turning = index then network.read? index else none
  | _ => none

/-- What a broker broadcasts to its clients in a step: an item that its loop reads, or an event that
is published on it while the bus takes no write or the loop is down. -/
def broadcast? (network : Network) (index : Nat) : Step → Option Envelope
  | .turn turning => (network.item? index (.turn turning)).bind Broker.envelope?
  | .publish publishing event => do
    let broker ← network.brokers[index]?
    let envelope ← (Envelope.sealEvent event).toOption
    let (_, written) := (network.fabric.write broker.bus broker.channel envelope.encode).value
    if publishing = index ∧ broker.closed = false ∧
        (broker.listening = false ∨ written.isOk = false) then some envelope
    else none
  | _ => none

def client? (network : Network) (id : ClientId) : Option Client :=
  (network.brokers[id.registry]?).bind (·.registry.clients[id.serial]?)

def queue (network : Network) (id : ClientId) : List Message :=
  ((network.client? id).map (·.queue)).getD []

end Network

structure Chronicle where
  network : Network
  /-- All writes in their order. -/
  writes : List Write
  /-- The numbers of the writes whose messages were stored in each channel of the hub. -/
  stored : Nat → List Nat
  /-- What each client was offered, with the number of the write it came from: the message that was
  put into the queue, or nothing where the queue was full. -/
  offered : ClientId → List (Nat × Option Message)
  /-- What the loop of each broker has read. -/
  items : Nat → List BusItem

namespace Chronicle

/-- A hub without brokers. -/
def start (capacity : Nat) : Chronicle where
  network := ⟨(Fabric.empty.addHub capacity).1, []⟩
  writes := []
  stored _ := []
  offered _ := []
  items _ := []

/-- The writes on a channel. The number of a write is its place among them. -/
def writesOn (chronicle : Chronicle) (channel : String) : List Write :=
  chronicle.writes.filter (·.channel = channel)

/-- The number of the next write on a channel. -/
def count (chronicle : Chronicle) (channel : String) : Nat := (chronicle.writesOn channel).length

def content (chronicle : Chronicle) (channel : String) (number : Nat) : Option Bytes :=
  ((chronicle.writesOn channel)[number]?).map (·.message)

def pending (chronicle : Chronicle) (index : Nat) : List Nat :=
  ((chronicle.network.brokers[index]?).map
    (·.pending chronicle.network.hub chronicle.stored)).getD []

/-- The number of the write that a step makes. -/
def number (chronicle : Chronicle) (step : Step) : Nat :=
  ((chronicle.network.write? step).map fun write => chronicle.count write.channel).getD 0

/-- The number of the write whose message a step broadcasts: the next one that the loop comes to, or
the one that the step makes. -/
def source (chronicle : Chronicle) : Step → Nat
  | .turn index => (chronicle.pending index).headD 0
  | step => chronicle.number step

/-- What was ever put into the queue of a client. -/
def enqueued (chronicle : Chronicle) (id : ClientId) : List (Nat × Message) :=
  (chronicle.offered id).filterMap fun offer => offer.2.map (offer.1, ·)

/-- The numbers of the writes that found the queue of a client full. -/
def refused (chronicle : Chronicle) (id : ClientId) : List Nat :=
  (chronicle.offered id).filterMap fun offer => if offer.2.isNone then some offer.1 else none

/-- The messages that a step puts into the queue of a client. -/
def gained (chronicle : Chronicle) (step : Step) (id : ClientId) : List Message :=
  ((chronicle.network.step step).queue id).drop (chronicle.network.queue id).length

/-- Whether a step offers a client a message that its queue has no room for. -/
def refuses (chronicle : Chronicle) (step : Step) (id : ClientId) : Bool :=
  match chronicle.network.brokers[id.registry]?,
    chronicle.network.broadcast? id.registry step, chronicle.network.client? id with
  | some broker, some envelope, some client =>
    client.Refuses broker.registry.capacity envelope.scope
  | _, _, _ => false

/-- What a step offers a client. -/
def offering (chronicle : Chronicle) (step : Step) (id : ClientId) : List (Option Message) :=
  (chronicle.gained step id).map some ++ if chronicle.refuses step id then [none] else []

def advance (chronicle : Chronicle) (step : Step) : Chronicle where
  network := chronicle.network.step step
  writes := chronicle.writes ++ (chronicle.network.write? step).toList
  stored := chronicle.network.hub.storedAfter chronicle.stored
    (chronicle.network.step step).hub (chronicle.number step)
  offered id := chronicle.offered id ++ (chronicle.offering step id).map (chronicle.source step, ·)
  items index := chronicle.items index ++ (chronicle.network.item? index step).toList

def run (capacity : Nat) (steps : List Step) : Chronicle :=
  steps.foldl advance (start capacity)

end Chronicle

end Fanout
