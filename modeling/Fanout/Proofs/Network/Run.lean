import Fanout.Network
import Fanout.Proofs.Registry

/-! The steps of a network whose brokers are all on one bus, and what each of them is where that bus
is a hub in memory. -/

namespace Fanout

/-- A step of one party. Brokers are named by their numbers. -/
inductive Step where
  | start (config : BrokerConfig)
  | publish (broker : Nat) (event : Event Payload)
  /-- A message that no broker of the network writes. -/
  | write (channel : String) (message : Bytes)
  /-- One iteration of an inbound loop. -/
  | turn (broker : Nat)
  | subscribe (broker : Nat) (filter : String)
  | unsubscribe (client : ClientId)
  | dropHandle (client : ClientId)
  | dropReceiver (client : ClientId)
  | receive (client : ClientId)
  | close (broker : Nat)
  | shutdown

namespace Network

def onRegistry (network : Network) (index : Nat) (f : Registry → Registry) : Network :=
  match network.brokers[index]? with
  | none => network
  | some broker => network.setBroker index { broker with registry := f broker.registry }

def step (network : Network) : Step → Network
  | .start config => (network.start 0 config).value.1
  | .publish index event => (network.publish index event).value
  | .write channel message =>
    { network with fabric := (network.fabric.write 0 channel message).value.1 }
  | .turn index => (network.turn index).value.1
  | .subscribe index filter =>
    (network.subscribe index filter).elim network fun subscribed => subscribed.value.1
  | .unsubscribe id =>
    network.onRegistry id.registry fun registry => (registry.unsubscribe id.serial).value.1
  | .dropHandle id =>
    network.onRegistry id.registry fun registry => (registry.dropHandle id.serial).value
  | .dropReceiver id => network.onRegistry id.registry (·.dropReceiver id.serial)
  | .receive id => network.onRegistry id.registry fun registry => (registry.receive id.serial).1
  | .close index => (network.close index).value
  | .shutdown => { network with fabric := network.fabric.shutdown 0 }

/-- A broker that has subscribed to its channel on the first bus. -/
def started (index : Nat) (config : BrokerConfig) (k reader : Nat) : Broker :=
  ⟨0, config.channel, .new index config.clientCapacity, .waiting (.hub 0 k reader), true, false⟩

/-- Brokers on the first bus, which is this hub. -/
def onHub (hub : Hub) (brokers : List Broker) : Network := ⟨⟨[hub], [], [.memory 0]⟩, brokers⟩

variable {hub : Hub} {brokers : List Broker} {index : Nat} {broker : Broker}

@[simp] theorem onHub_brokers (hub : Hub) (brokers : List Broker) :
    (onHub hub brokers).brokers = brokers := rfl

@[simp] theorem onHub_setBroker (hub : Hub) (brokers : List Broker) (index : Nat)
    (broker : Broker) :
    (onHub hub brokers).setBroker index broker = onHub hub (brokers.set index broker) := rfl

@[simp] theorem onHub_write (hub : Hub) (brokers : List Broker) (channel : String)
    (message : Bytes) :
    ((onHub hub brokers).fabric.write 0 channel message).value
      = ((onHub (hub.write channel message).1 brokers).fabric, .ok ()) := rfl

theorem onHub_next (hub : Hub) (brokers : List Broker) (k reader : Nat) :
    ((onHub hub brokers).fabric.next (.hub 0 k reader)).value
      = ((onHub (hub.next k reader).1 brokers).fabric, (hub.next k reader).2) := by
  simp only [onHub, Fabric.next, List.getElem?_cons_zero]
  cases (hub.next k reader).2 with
  | item item => cases item <;> rfl
  | pending => rfl
  | ended => rfl

theorem step_write (hub : Hub) (brokers : List Broker) (channel : String) (message : Bytes) :
    (onHub hub brokers).step (.write channel message)
      = onHub (hub.write channel message).1 brokers := rfl

theorem step_shutdown (hub : Hub) (brokers : List Broker) :
    (onHub hub brokers).step .shutdown = onHub hub.shutdown brokers := rfl

theorem step_start {config : BrokerConfig} {after : Hub} {k reader : Nat}
    (opened : hub.subscribe config.channel = (after, k, reader)) :
    (onHub hub brokers).step (.start config)
      = onHub after (brokers ++ [started brokers.length config k reader]) := by
  simp [step, start, started, onHub, Fabric.subscribe, Fabric.bus, Fabric.subscribeHub, opened]

theorem publish_closed (here : brokers[index]? = some broker) (closed : broker.closed = true)
    (event : Event Payload) :
    (onHub hub brokers).step (.publish index event) = onHub hub brokers := by
  simp [step, publish, here, closed]

theorem publish_error (here : brokers[index]? = some broker) (running : broker.closed = false)
    {event : Event Payload} {error : Error} (failed : Envelope.sealEvent event = .error error) :
    (onHub hub brokers).step (.publish index event) = onHub hub (brokers.set index
      (broker.tally fun s => { s with serializationFailures := s.serializationFailures + 1 })) := by
  simp [step, publish, here, running, failed]

/-- An event that is sealed is written to the bus, and broadcast at once where the bus does not take
it or the loop will not bring it back. -/
theorem publish_sealed (network : Network) (here : network.brokers[index]? = some broker)
    (running : broker.closed = false) {event : Event Payload} {envelope : Envelope}
    (sealed : Envelope.sealEvent event = .ok envelope) :
    network.step (.publish index event)
      = match (network.fabric.write broker.bus broker.channel envelope.encode).value with
        | (fabric, .ok ()) =>
          if broker.listening then { network with fabric }
          else ({ network with fabric }).setBroker index
            (broker.broadcast envelope.data envelope.scope).value.1
        | (fabric, .error _) => ({ network with fabric }).setBroker index
            ((broker.tally fun s => { s with busFallbacks := s.busFallbacks + 1 }).broadcast
              envelope.data envelope.scope).value.1 := by
  simp only [step, publish, here, running, sealed, publishSealed, Bool.false_eq_true, if_false]
  generalize network.fabric.write broker.bus broker.channel envelope.encode = logged
  obtain ⟨⟨fabric, written⟩, notices⟩ := logged
  cases written with
  | error error => rfl
  | ok => cases broker.listening <;> rfl

theorem publish_listening (here : brokers[index]? = some broker) (onBus : broker.bus = 0)
    (running : broker.closed = false) (listening : broker.listening = true)
    {event : Event Payload} {envelope : Envelope}
    (sealed : Envelope.sealEvent event = .ok envelope) :
    (onHub hub brokers).step (.publish index event)
      = onHub (hub.write broker.channel envelope.encode).1 brokers := by
  rw [publish_sealed _ here running sealed, onBus, onHub_write]
  exact if_pos listening

theorem publish_direct (here : brokers[index]? = some broker) (onBus : broker.bus = 0)
    (running : broker.closed = false) (down : broker.listening = false)
    {event : Event Payload} {envelope : Envelope}
    (sealed : Envelope.sealEvent event = .ok envelope) :
    (onHub hub brokers).step (.publish index event)
      = onHub (hub.write broker.channel envelope.encode).1
        (brokers.set index (broker.broadcast envelope.data envelope.scope).value.1) := by
  rw [publish_sealed _ here running sealed, onBus, onHub_write]
  exact if_neg (by simp [down])

/-- What one iteration of a loop leaves, by what its stream held. -/
def afterTurn (hub : Hub) (brokers : List Broker) (index k reader : Nat) (broker : Broker) :
    Next → Network
  | .pending => onHub hub (brokers.set index { broker with inbound := .running (.hub 0 k reader) })
  | .item item => onHub hub (brokers.set index
      (Broker.take { broker with inbound := .running (.hub 0 k reader) } item).value)
  | .ended => onHub (hub.drop k reader)
      (brokers.set index { broker with inbound := .ended, listening := false })

theorem turn_value {k reader : Nat} (here : brokers[index]? = some broker)
    (stream : broker.inbound.stream? = some (.hub 0 k reader)) :
    ((onHub hub brokers).turn index).value
      = (afterTurn (hub.next k reader).1 brokers index k reader broker (hub.next k reader).2,
        if (hub.next k reader).2 = .pending then .idle else .moved) := by
  have next := onHub_next hub brokers k reader
  simp only [turn, onHub_brokers, here, stream]
  generalize (onHub hub brokers).fabric.next (.hub 0 k reader) = logged at next ⊢
  obtain ⟨⟨fabric, item⟩, notices⟩ := logged
  cases next
  cases broker.inbound <;> cases (hub.next k reader).2 <;> rfl

theorem step_turn {k reader : Nat} (here : brokers[index]? = some broker)
    (stream : broker.inbound.stream? = some (.hub 0 k reader)) :
    (onHub hub brokers).step (.turn index)
      = afterTurn (hub.next k reader).1 brokers index k reader broker (hub.next k reader).2 :=
  congrArg (·.1) (turn_value here stream)

theorem turn_idle (here : brokers[index]? = some broker) (none : broker.inbound.stream? = none) :
    (onHub hub brokers).step (.turn index) = onHub hub brokers := by
  simp [step, turn, here, none]

theorem close_idle (here : brokers[index]? = some broker) (none : broker.inbound.stream? = none) :
    (onHub hub brokers).step (.close index) = onHub hub (brokers.set index
      { broker with closed := true, registry := broker.registry.closeAll.value }) := by
  have inside := (List.getElem?_eq_some_iff.mp here).1
  simp only [step, close, onHub_brokers, here, Logged.value_bind, cancel, none, Logged.value_pure,
    onHub_setBroker, List.getElem?_set_self inside, List.set_set]

theorem step_close {k reader : Nat} (here : brokers[index]? = some broker)
    (stream : broker.inbound.stream? = some (.hub 0 k reader)) :
    (onHub hub brokers).step (.close index) = onHub (hub.drop k reader) (brokers.set index
      { broker with
        inbound := .ended, listening := false, closed := true
        registry := broker.registry.closeAll.value }) := by
  have inside := (List.getElem?_eq_some_iff.mp here).1
  cases inbound : broker.inbound with
  | absent | ended => simp [inbound, Inbound.stream?] at stream
  | waiting _ | running _ =>
    rw [inbound] at stream
    simp only [step, close, onHub_brokers, here, Logged.value_bind, cancel, inbound, stream,
      Logged.value_pure, setBroker, List.getElem?_set_self inside, List.set_set]
    rfl

theorem onRegistry_eq (f : Registry → Registry) :
    (onHub hub brokers).onRegistry index f = match brokers[index]? with
      | none => onHub hub brokers
      | some broker =>
        onHub hub (brokers.set index { broker with registry := f broker.registry }) := by
  simp only [onRegistry, onHub_brokers, onHub_setBroker]

end Network

end Fanout
