import Fanout.Proofs.Broker
import Fanout.Proofs.Bus.Fabric
import Fanout.Proofs.Network.Run

/-! What can be done to one broker on any buses, where a close may take its time: callers find the
broker closed from the beginning of its close on, while its loop runs until it notices. -/

namespace Fanout

inductive Act where
  /-- A step, which is made on this bus where it names no broker. -/
  | on (bus : Nat) (step : Step)
  /-- A close begins. The step that closes the broker is its end. -/
  | closing (broker : Nat)
  /-- The server behind a bus is shut off. -/
  | stop (bus : Nat)

/-- The broker that a step names, unless it is a new one. -/
def Step.broker? : Step → Option Nat
  | .publish broker _ | .turn broker | .subscribe broker _ | .close broker => some broker
  | .unsubscribe id | .dropHandle id | .dropReceiver id | .receive id => some id.registry
  | .start _ | .write _ _ | .shutdown => none

def Act.broker? : Act → Option Nat
  | .on _ step => step.broker?
  | .closing broker => some broker
  | .stop _ => none

namespace Broker

/-- A broker that has just been started. -/
def fresh (bus number : Nat) (config : BrokerConfig) : Except Error Stream → Broker
  | .ok stream =>
    ⟨bus, config.channel, .new number config.clientCapacity, .waiting stream, true, false⟩
  | .error _ => ⟨bus, config.channel, .new number config.clientCapacity, .absent, false, false⟩

section Fresh

variable (bus number : Nat) (config : BrokerConfig) (opened : Except Error Stream)

@[simp] theorem fresh_bus : (fresh bus number config opened).bus = bus := by
  cases opened <;> rfl

@[simp] theorem fresh_channel : (fresh bus number config opened).channel = config.channel := by
  cases opened <;> rfl

@[simp] theorem fresh_registry :
    (fresh bus number config opened).registry = .new number config.clientCapacity := by
  cases opened <;> rfl

@[simp] theorem fresh_stream :
    (fresh bus number config opened).inbound.stream? = opened.toOption := by
  cases opened <;> rfl

end Fresh

def onClient (serial : Nat) (f : Client → Client) (broker : Broker) : Broker :=
  { broker with registry := broker.registry.update serial f }

/-- Whether the bus takes the message of an event. -/
def writes (fabric : Fabric) (broker : Broker) (envelope : Envelope) : Bool :=
  (fabric.write broker.bus broker.channel envelope.encode).value.2.isOk

/-- What is left when an event was published on the broker. -/
def published (fabric : Fabric) (broker : Broker) (event : Event Payload) : Fabric × Broker :=
  if broker.closed then (fabric, broker)
  else match Envelope.sealEvent event with
    | .error _ => (fabric,
        broker.tally fun s => { s with serializationFailures := s.serializationFailures + 1 })
    | .ok envelope => ((fabric.write broker.bus broker.channel envelope.encode).value.1,
        if broker.writes fabric envelope then
          if broker.listening then broker
          else (broker.broadcast envelope.data envelope.scope).value.1
        else ((broker.tally fun s => { s with busFallbacks := s.busFallbacks + 1 }).broadcast
          envelope.data envelope.scope).value.1)

theorem published_closed {broker : Broker} (closed : broker.closed = true) (fabric : Fabric)
    (event : Event Payload) : broker.published fabric event = (fabric, broker) :=
  if_pos closed

theorem published_error {broker : Broker} (running : broker.closed = false) {event : Event Payload}
    {error : Error} (failed : Envelope.sealEvent event = .error error) (fabric : Fabric) :
    broker.published fabric event = (fabric,
      broker.tally fun s => { s with serializationFailures := s.serializationFailures + 1 }) := by
  simp [published, running, failed]

theorem published_sealed {broker : Broker} (running : broker.closed = false)
    {event : Event Payload} {envelope : Envelope}
    (sealed : Envelope.sealEvent event = .ok envelope) (fabric : Fabric) :
    broker.published fabric event
      = ((fabric.write broker.bus broker.channel envelope.encode).value.1,
        if broker.writes fabric envelope then
          if broker.listening then broker
          else (broker.broadcast envelope.data envelope.scope).value.1
        else ((broker.tally fun s => { s with busFallbacks := s.busFallbacks + 1 }).broadcast
          envelope.data envelope.scope).value.1) := by
  simp [published, running, sealed]

/-- What is left when the loop has found this on its stream. -/
def found (fabric : Fabric) (stream : Stream) (broker : Broker) : Next → Fabric × Broker
  | .pending => (fabric, { broker with inbound := .running stream })
  | .item item => (fabric, (take { broker with inbound := .running stream } item).value)
  | .ended => (fabric.drop stream, { broker with inbound := .ended, listening := false })

/-- What is left after one turn of the loop. -/
def turned (fabric : Fabric) (broker : Broker) : Fabric × Broker :=
  match broker.inbound.stream? with
  | none => (fabric, broker)
  | some stream => broker.found (fabric.next stream).value.1 stream (fabric.next stream).value.2

theorem turned_idle {broker : Broker} (idle : broker.inbound.stream? = none) (fabric : Fabric) :
    broker.turned fabric = (fabric, broker) := by
  simp only [turned, idle]

theorem turned_stream {broker : Broker} {stream : Stream}
    (reads : broker.inbound.stream? = some stream) (fabric : Fabric) : broker.turned fabric
      = broker.found (fabric.next stream).value.1 stream (fabric.next stream).value.2 := by
  simp only [turned, reads]

/-- What is left when the broker was closed. -/
def shut (fabric : Fabric) (broker : Broker) : Fabric × Broker :=
  let closed := { broker with closed := true, registry := broker.registry.closeAll.value }
  match broker.inbound.stream? with
  | none => (fabric, closed)
  | some stream => (fabric.drop stream, { closed with inbound := .ended, listening := false })

theorem shut_stream (fabric : Fabric) (broker : Broker) :
    (broker.shut fabric).2.inbound.stream? = none := by
  unfold shut
  cases reads : broker.inbound.stream? with
  | none => exact reads
  | some stream => rfl

/-- What an act that names the broker leaves of the buses and of the broker. -/
def perform (fabric : Fabric) (broker : Broker) : Act → Fabric × Broker
  | .on _ (.publish _ event) => broker.published fabric event
  | .on _ (.turn _) => broker.turned fabric
  | .on _ (.subscribe _ filter) =>
    (fabric, (broker.subscribe filter).elim broker fun joined => joined.value.1)
  | .on _ (.unsubscribe id) => (fabric, broker.onClient id.serial ({ · with registered := false }))
  | .on _ (.dropHandle id) =>
    (fabric, broker.onClient id.serial ({ · with registered := false, held := false }))
  | .on _ (.dropReceiver id) => (fabric, broker.onClient id.serial (·.dropReceiver))
  | .on _ (.receive id) => (fabric, broker.onClient id.serial (·.receive.1))
  | .on _ (.close _) => broker.shut fabric
  | .on _ (.start _) | .on _ (.write _ _) | .on _ .shutdown | .stop _ => (fabric, broker)
  | .closing _ => (fabric, { broker with closed := true })

/-- What is left when somebody has subscribed: there is a client more, which a closed broker does
not register, unless its queue would be too long. -/
def joined (filter : String) (broker : Broker) : Broker :=
  { broker with
    registry := { broker.registry with
      clients := broker.registry.clients
        ++ if maxQueueCapacity < broker.registry.capacity then []
          else [{ Client.opened filter with registered := !broker.closed }] } }

theorem perform_subscribe (fabric : Fabric) (broker : Broker) (bus index : Nat) (filter : String) :
    broker.perform fabric (.on bus (.subscribe index filter)) = (fabric, broker.joined filter) := by
  rw [perform, joined]
  by_cases full : maxQueueCapacity < broker.registry.capacity
  · have refused : broker.subscribe filter = none := by
      rw [subscribe, Registry.subscribe, if_pos full, Option.map_none]
    rw [refused, if_pos full, List.append_nil]
    rfl
  · obtain ⟨found, subscribed⟩ : ∃ found, broker.subscribe filter = some found := by
      rw [subscribe, Registry.subscribe, if_neg full]
      exact ⟨_, rfl⟩
    rw [subscribed, Option.elim_some, subscribe_value subscribed, if_neg full]

/-- A broker stays on its bus and its channel, and its loop goes on or is gone. -/
structure Remains (broker after : Broker) : Prop where
  bus : after.bus = broker.bus
  channel : after.channel = broker.channel
  capacity : after.registry.capacity = broker.registry.capacity
  loop : (after.inbound.stream? = broker.inbound.stream? ∧ after.listening = broker.listening) ∨
    (after.inbound.stream? = none ∧ after.listening = false)

theorem Stays.remains {broker after : Broker} (stays : broker.Stays after)
    (capacity : after.registry.capacity = broker.registry.capacity) : broker.Remains after :=
  ⟨stays.bus, stays.channel, capacity, .inl ⟨stays.stream, stays.listening⟩⟩

theorem Remains.refl (broker : Broker) : broker.Remains broker := (Stays.refl broker).remains rfl

theorem remains_published (fabric : Fabric) (broker : Broker) (event : Event Payload) :
    broker.Remains (broker.published fabric event).2 := by
  unfold published
  split
  · exact .refl broker
  split
  · exact ⟨rfl, rfl, rfl, .inl ⟨rfl, rfl⟩⟩
  split
  · split
    · exact .refl broker
    · exact ⟨rfl, rfl, rfl, .inl ⟨rfl, rfl⟩⟩
  · exact ⟨rfl, rfl, rfl, .inl ⟨rfl, rfl⟩⟩

theorem remains_found {broker : Broker} {stream : Stream}
    (reads : broker.inbound.stream? = some stream) (fabric : Fabric) (next : Next) :
    broker.Remains (broker.found fabric stream next).2 := by
  have running : broker.Stays { broker with inbound := .running stream } :=
    ⟨rfl, rfl, reads.symm, rfl, rfl⟩
  cases next with
  | pending => exact running.remains rfl
  | item item =>
    obtain ⟨stays, tells⟩ := take_spec { broker with inbound := .running stream } item
    exact (running.trans stays).remains tells.capacity
  | ended => exact ⟨rfl, rfl, rfl, .inr ⟨rfl, rfl⟩⟩

theorem remains_turned (fabric : Fabric) (broker : Broker) :
    broker.Remains (broker.turned fabric).2 := by
  cases reads : broker.inbound.stream? with
  | none =>
    rw [turned_idle reads]
    exact .refl broker
  | some stream =>
    rw [turned_stream reads]
    exact remains_found reads ..

theorem remains_shut (fabric : Fabric) (broker : Broker) :
    broker.Remains (broker.shut fabric).2 := by
  have capacity : broker.registry.closeAll.value.capacity = broker.registry.capacity := by
    rw [Registry.closeAll_value]
  unfold shut
  cases broker.inbound.stream? with
  | none => exact ⟨rfl, rfl, capacity, .inl ⟨rfl, rfl⟩⟩
  | some stream => exact ⟨rfl, rfl, capacity, .inr ⟨rfl, rfl⟩⟩

theorem remains_perform (fabric : Fabric) (broker : Broker) (act : Act) :
    broker.Remains (broker.perform fabric act).2 := by
  cases act with
  | closing j => exact ⟨rfl, rfl, rfl, .inl ⟨rfl, rfl⟩⟩
  | stop bus => exact .refl broker
  | on bus step =>
    cases step with
    | publish j event => exact remains_published fabric broker event
    | turn j => exact remains_turned fabric broker
    | close j => exact remains_shut fabric broker
    | start config | write channel message | shutdown => exact .refl broker
    | unsubscribe id | dropHandle id | dropReceiver id | receive id =>
      exact ⟨rfl, rfl, rfl, .inl ⟨rfl, rfl⟩⟩
    | subscribe j filter =>
      rw [perform_subscribe]
      exact ⟨rfl, rfl, rfl, .inl ⟨rfl, rfl⟩⟩

theorem alike_published (fabric : Fabric) (broker : Broker) (event : Event Payload) :
    fabric.Alike (broker.published fabric event).1 := by
  unfold published
  split
  · exact .refl fabric
  split
  · exact .refl fabric
  · exact fabric.alike_write broker.bus broker.channel _

theorem alike_turned (fabric : Fabric) (broker : Broker) :
    fabric.Alike (broker.turned fabric).1 := by
  cases reads : broker.inbound.stream? with
  | none =>
    rw [turned_idle reads]
    exact .refl fabric
  | some stream =>
    rw [turned_stream reads]
    cases (fabric.next stream).value.2 with
    | pending | item _ => exact fabric.alike_next stream
    | ended => exact (fabric.alike_next stream).trans (Fabric.alike_drop _ stream)

theorem alike_perform (fabric : Fabric) (broker : Broker) (act : Act) :
    fabric.Alike (broker.perform fabric act).1 := by
  cases act with
  | closing j | stop bus => exact .refl fabric
  | on bus step =>
    cases step with
    | publish j event => exact alike_published fabric broker event
    | turn j => exact alike_turned fabric broker
    | close j =>
      simp only [perform, shut]
      cases broker.inbound.stream? with
      | none => exact .refl fabric
      | some stream => exact fabric.alike_drop stream
    | start config | write channel message | shutdown | subscribe j filter | unsubscribe id
    | dropHandle id | dropReceiver id | receive id => exact .refl fabric

end Broker

end Fanout
