import Fanout.Broker
import Fanout.Proofs.Registry

/-! What a broker does by itself changes its registry alone. Whether an item off the bus is heard by
its clients is a matter of whether the item can be decoded. -/

namespace Fanout.Broker

variable {broker after : Broker}

/-- The two states have the same place on the bus. -/
structure Stays (broker after : Broker) : Prop where
  bus : after.bus = broker.bus
  channel : after.channel = broker.channel
  stream : after.inbound.stream? = broker.inbound.stream?
  listening : after.listening = broker.listening
  closed : after.closed = broker.closed

theorem Stays.refl (broker : Broker) : broker.Stays broker := ⟨rfl, rfl, rfl, rfl, rfl⟩

theorem Stays.trans {last : Broker} (first : broker.Stays after) (second : after.Stays last) :
    broker.Stays last :=
  ⟨second.bus.trans first.bus, second.channel.trans first.channel,
    second.stream.trans first.stream, second.listening.trans first.listening,
    second.closed.trans first.closed⟩

/-- Clients hear an envelope if there is one, and otherwise gain nothing. -/
def Tells (broker : Broker) (heard : Option Envelope) (after : Broker) : Prop :=
  match heard with
  | some envelope => broker.registry.Hears envelope.data envelope.scope after.registry
  | none => broker.registry.Settles after.registry

theorem Tells.capacity {heard : Option Envelope} (tells : broker.Tells heard after) :
    after.registry.capacity = broker.registry.capacity := by
  cases heard with
  | some envelope => exact Registry.Hears.capacity tells
  | none => exact Registry.Settles.capacity tells

theorem tells_none_refl (broker : Broker) : broker.Tells none broker :=
  (Registry.Wanes.refl broker.registry).settles

theorem tells_broadcast (broker : Broker) (envelope : Envelope) :
    broker.Tells (some envelope) (broker.broadcast envelope.data envelope.scope).value.1 :=
  broker.registry.hears_broadcast envelope.data envelope.scope

/-- The envelope of an item that can be broadcast. -/
def envelope? : BusItem → Option Envelope
  | .message message => (Envelope.decode message).toOption
  | .lagged _ => none

/-- A message that can be decoded is counted and broadcast. -/
theorem take_message (broker : Broker) {message : Bytes} {envelope : Envelope}
    (decoded : Envelope.decode message = .ok envelope) :
    (broker.take (.message message)).value = ((broker.tally fun s =>
      { s with inboundReceived := s.inboundReceived + 1 }).broadcast envelope.data
        envelope.scope).value.1 := by
  simp only [take, deliver, decoded]
  rfl

/-- A message that cannot be decoded is counted twice. -/
theorem take_malformed (broker : Broker) {message : Bytes} {fault : Error}
    (decoded : Envelope.decode message = .error fault) :
    (broker.take (.message message)).value = broker.tally fun s =>
      { s with
        inboundReceived := s.inboundReceived + 1
        decodeFailures := s.decodeFailures + 1 } := by
  simp only [take, deliver, decoded]
  rfl

theorem take_spec (broker : Broker) (item : BusItem) :
    broker.Stays (broker.take item).value ∧
      broker.Tells (envelope? item) (broker.take item).value := by
  cases item with
  | lagged lost => exact ⟨⟨rfl, rfl, rfl, rfl, rfl⟩, rfl, rfl, Nat.le_refl _, fun _ d here =>
      .inl ⟨d, here, .refl d⟩⟩
  | message message =>
    simp only [envelope?]
    cases decoded : Envelope.decode message with
    | error fault =>
      simp only [take, deliver, decoded]
      exact ⟨⟨rfl, rfl, rfl, rfl, rfl⟩, rfl, rfl, Nat.le_refl _, fun _ d here =>
        .inl ⟨d, here, .refl d⟩⟩
    | ok envelope =>
      rw [broker.take_message decoded]
      have hears := (broker.tally fun s => { s with inboundReceived := s.inboundReceived + 1 }
        ).registry.hears_broadcast envelope.data envelope.scope
      exact ⟨⟨rfl, rfl, rfl, rfl, rfl⟩, hears.capacity, hears.clients, hears.droppedFull⟩

/-- A client comes behind all others. It is registered unless the broker is closed. -/
theorem subscribe_value {filter : String} {joined : Logged (Broker × Nat)}
    (subscribed : broker.subscribe filter = some joined) :
    joined.value = ({ broker with
      registry := { broker.registry with
        clients := broker.registry.clients
          ++ [{ Client.opened filter with registered := !broker.closed }] } },
      broker.registry.clients.length) := by
  unfold subscribe at subscribed
  rw [Option.map_eq_some_iff] at subscribed
  obtain ⟨registered, found, rfl⟩ := subscribed
  simp only [Logged.value_bind, Registry.subscribe_value found]
  cases closed : broker.closed with
  | false => rfl
  | true =>
    simp only [if_true, Logged.value_bind, Registry.unsubscribe_value, Registry.update, modify_snoc]
    rfl

theorem subscribe_spec {filter : String} {joined : Logged (Broker × Nat)}
    (subscribed : broker.subscribe filter = some joined) :
    broker.Stays joined.value.1 ∧ broker.Tells none joined.value.1 := by
  unfold subscribe at subscribed
  rw [Option.map_eq_some_iff] at subscribed
  obtain ⟨registered, found, rfl⟩ := subscribed
  have settles := Registry.settles_subscribe found
  simp only [Logged.value_bind]
  split
  · exact ⟨⟨rfl, rfl, rfl, rfl, rfl⟩, settles.wanes (Registry.wanes_unsubscribe _ _)⟩
  · exact ⟨⟨rfl, rfl, rfl, rfl, rfl⟩, settles⟩

end Fanout.Broker
