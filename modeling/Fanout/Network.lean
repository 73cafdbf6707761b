import Fanout.Broker

/-!
Brokers on buses. A network goes on by single steps of single parties: a publish, one turn of an
inbound loop, a close. Every order of such steps is a run of the network.
-/

namespace Fanout

structure Network where
  fabric : Fabric
  brokers : List Broker

namespace Network

def empty : Network := ⟨.empty, []⟩

def setBroker (network : Network) (index : Nat) (broker : Broker) : Network :=
  { network with brokers := network.brokers.set index broker }

/-- Starts a broker on a bus. If no stream can be opened there, it delivers to its own clients. -/
def start (network : Network) (bus : Nat) (config : BrokerConfig) : Logged (Network × Nat) := do
  let registry := Registry.new network.brokers.length config.clientCapacity
  let (fabric, opened) ← network.fabric.subscribe bus config.channel
  let broker ← match opened with
    | .ok stream => pure ⟨bus, config.channel, registry, .waiting stream, true, false⟩
    | .error error => do
      .note (.localOnly config.channel error)
      pure ⟨bus, config.channel, registry, .absent, false, false⟩
  .note (.brokerStarted config.channel registry.capacity)
  return (⟨fabric, network.brokers ++ [broker]⟩, network.brokers.length)

/-- Gives a bus up. Its hub ends unless one of the buses `held` or a broker is on it still. -/
def release (network : Network) (held : List Nat) (bus : Nat) : Network :=
  let hub := network.fabric.hub? bus
  let users := held ++ network.brokers.map (·.bus)
  if users.any fun user => network.fabric.hub? user = hub then network
  else { network with fabric := network.fabric.shutdown bus }

/-- Publishes an event that is sealed already. -/
def publishSealed (network : Network) (index : Nat) (broker : Broker) (type : String)
    (envelope : Envelope) : Logged Network := do
  let (fabric, written) ← network.fabric.write broker.bus broker.channel envelope.encode
  let network := { network with fabric }
  match written with
  | .ok () =>
    if broker.listening then return network
    else do
      .note (.deliveringLocally type)
      let (broker, _) ← broker.broadcast envelope.data envelope.scope
      return network.setBroker index broker
  | .error error => do
    .note (.writeFailed type broker.channel error)
    let broker := broker.tally fun s => { s with busFallbacks := s.busFallbacks + 1 }
    let (broker, _) ← broker.broadcast envelope.data envelope.scope
    return network.setBroker index broker

/-- Publishes an event. A closed broker discards it, and one that cannot be serialized is dropped;
neither is reported to the publisher. -/
def publish (network : Network) (index : Nat) (event : Event Payload) : Logged Network :=
  match network.brokers[index]? with
  | none => pure network
  | some broker =>
    if broker.closed then do
      .note (.publishedAfterClose event.type event.scope)
      return network
    else
      match Envelope.sealEvent event with
      | .error error => do
        .note (.notSerialized event.type event.scope error)
        return network.setBroker index
          (broker.tally fun s => { s with serializationFailures := s.serializationFailures + 1 })
      | .ok envelope => network.publishSealed index broker event.type envelope

/-- Registers a client of a broker, unless its queue would be too long. -/
def subscribe (network : Network) (index : Nat) (filter : String) :
    Option (Logged (Network × ClientId)) :=
  match network.brokers[index]? with
  | none => none
  | some broker => (broker.subscribe filter).map fun subscribed => do
    let (broker, serial) ← subscribed
    return (network.setBroker index broker, ⟨index, serial⟩)

/-- Whether a turn of an inbound loop had something to do. -/
inductive Progress where
  | idle
  | moved
  deriving DecidableEq, Repr

/-- One turn of a broker's inbound loop: it takes one item, or ends with its stream. -/
def turn (network : Network) (index : Nat) : Logged (Network × Progress) :=
  match network.brokers[index]? with
  | none => pure (network, .idle)
  | some broker =>
    match broker.inbound.stream? with
    | none => pure (network, .idle)
    | some stream => do
      if let .waiting _ := broker.inbound then .note (.loopStarted broker.channel)
      let broker := { broker with inbound := .running stream }
      let (fabric, next) ← network.fabric.next stream
      let network := { network with fabric }
      match next with
      | .pending => return (network.setBroker index broker, .idle)
      | .item item => return (network.setBroker index (← broker.take item), .moved)
      | .ended => do
        .note (.loopEnded broker.channel)
        let network := { network with fabric := network.fabric.drop stream }
        return (network.setBroker index { broker with inbound := .ended, listening := false },
          .moved)

def turns (network : Network) (index : Nat) : Nat → Logged Network
  | 0 => pure network
  | fuel + 1 => do
    let (network, progress) ← network.turn index
    match progress with
    | .idle => return network
    | .moved => network.turns index fuel

/-- Lets an inbound loop run until there is nothing left to do. Every turn but the last leaves less
unread, and one may end the loop. -/
def settleBroker (network : Network) (index : Nat) : Logged Network :=
  match (network.brokers[index]?).bind (·.inbound.stream?) with
  | none => pure network
  | some stream => network.turns index (network.fabric.unread stream + 2)

def settle (network : Network) : Logged Network :=
  (List.range network.brokers.length).foldlM settleBroker network

/-- Cancels the inbound loop, if there is one still. -/
def cancel (network : Network) (index : Nat) (broker : Broker) : Logged Network :=
  match broker.inbound.stream? with
  | none => return network.setBroker index { broker with closed := true }
  | some stream => do
    if let .waiting _ := broker.inbound then .note (.loopStarted broker.channel)
    .note (.loopCancelled broker.channel)
    let network := { network with fabric := network.fabric.drop stream }
    return network.setBroker index
      { broker with inbound := .ended, listening := false, closed := true }

/-- Closes a broker: its loop is cancelled, then every client's queue is closed. -/
def close (network : Network) (index : Nat) : Logged Network :=
  match network.brokers[index]? with
  | none => pure network
  | some broker => do
    let network ← network.cancel index broker
    match network.brokers[index]? with
    | none => return network
    | some broker => do
      let registry ← broker.registry.closeAll
      .note .brokerClosed
      return network.setBroker index { broker with registry }

end Network

end Fanout
