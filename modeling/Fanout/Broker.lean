import Fanout.Envelope
import Fanout.Registry
import Fanout.Bus.Fabric

/-!
A broker delivers the events of one process: it writes what is published to its bus channel, and its
inbound loop reads that channel and broadcasts to the clients. Where the bus or the loop fails, what
is published goes to its own clients at once.
-/

namespace Fanout

/-- The inbound loop of a broker. -/
inductive Inbound where
  /-- There is none, because its stream could not be opened. -/
  | absent
  /-- It has not run yet. -/
  | waiting (stream : Stream)
  | running (stream : Stream)
  | ended
  deriving DecidableEq, Repr

def Inbound.stream? : Inbound → Option Stream
  | .waiting stream | .running stream => some stream
  | .absent | .ended => none

structure Broker where
  bus : Nat
  channel : String
  registry : Registry
  inbound : Inbound
  /-- Whether what is written to the bus comes back through the loop. -/
  listening : Bool
  closed : Bool
  deriving DecidableEq, Repr

/-- How a broker is set up. -/
structure BrokerConfig where
  /-- The bus channel, the same for all brokers that work together. -/
  channel : String
  /-- The length of every client's queue. -/
  clientCapacity : Nat
  deriving DecidableEq, Repr

def defaultChannel : String := "shiftboard:events"

def defaultClientCapacity : Nat := 64

def BrokerConfig.default : BrokerConfig := ⟨defaultChannel, defaultClientCapacity⟩

namespace Broker

def stats (broker : Broker) : Stats := broker.registry.stats

def clientCount (broker : Broker) : Nat := broker.registry.count

def tally (f : Stats → Stats) (broker : Broker) : Broker :=
  { broker with registry := { broker.registry with stats := f broker.registry.stats } }

def broadcast (broker : Broker) (message : Message) (scope : String) :
    Logged (Broker × Nat) := do
  let (registry, delivered) ← broker.registry.broadcast message scope
  return ({ broker with registry }, delivered)

/-- Broadcasts one message off the bus, unless it is malformed. -/
def deliver (broker : Broker) (message : Bytes) : Logged Broker := do
  let broker := broker.tally fun s => { s with inboundReceived := s.inboundReceived + 1 }
  match Envelope.decode message with
  | .ok envelope => do
    let (broker, delivered) ← broker.broadcast envelope.data envelope.scope
    .note (.delivered envelope.scope delivered)
    return broker
  | .error error => do
    .note (.malformed message.length broker.channel error)
    return broker.tally fun s => { s with decodeFailures := s.decodeFailures + 1 }

/-- What the inbound loop does with an item. -/
def take (broker : Broker) : BusItem → Logged Broker
  | .message message => broker.deliver message
  | .lagged lost => do
    .note (.loopLagged broker.channel lost)
    return broker.tally fun s => { s with busLagged := s.busLagged + .ofNat lost }

/-- Registers a client. A closed broker removes it at once. -/
def subscribe (broker : Broker) (filter : String) : Option (Logged (Broker × Nat)) :=
  (broker.registry.subscribe filter).map fun subscribed => do
    let (registry, serial) ← subscribed
    if broker.closed then
      .note .subscribedAfterClose
      let (registry, _) ← registry.unsubscribe serial
      return ({ broker with registry }, serial)
    else return ({ broker with registry }, serial)

end Broker

end Fanout
