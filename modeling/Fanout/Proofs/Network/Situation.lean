import Fanout.Proofs.Broker
import Fanout.Proofs.Bus.Channel
import Fanout.Proofs.Envelope
import Fanout.Proofs.Network.Run

/-! One broker in different situations of its bus: on a hub that its loop keeps up with, or without
a bus that takes writes, or without a loop that brings them back. What each situation keeps, and
that a publish in any of them reaches the clients once. -/

namespace Fanout

/-- What is behind the bus of a broker that is alone on it. -/
inductive Situation where
  /-- A hub in memory. The loop reads all there is after every publish. -/
  | drained (capacity : Nat)
  /-- A bus that takes no writes and opens no streams. -/
  | unavailable
  /-- An address where no server listens. -/
  | unreachable (address : Address)
  /-- A hub that opens streams and takes no writes. -/
  | writeFailing (capacity : Nat)
  /-- A hub in memory that was shut down, which the loop has noticed. -/
  | ended (capacity : Nat)

/-- What happens at the broker. Its clients go by their numbers. -/
inductive Local where
  | subscribe (filter : String)
  | unsubscribe (client : Nat)
  | dropHandle (client : Nat)
  | dropReceiver (client : Nat)
  | receive (client : Nat)
  | publish (event : Event Payload)
  /-- The loop has a turn. -/
  | turn

def Local.step : Local → Step
  | .subscribe filter => .subscribe 0 filter
  | .unsubscribe client => .unsubscribe ⟨0, client⟩
  | .dropHandle client => .dropHandle ⟨0, client⟩
  | .dropReceiver client => .dropReceiver ⟨0, client⟩
  | .receive client => .receive ⟨0, client⟩
  | .publish event => .publish 0 event
  | .turn => .turn 0

namespace Registry

/-- The registry without the two counters that tell how messages came to it. -/
def common (registry : Registry) : Registry :=
  { registry with stats := { registry.stats with busFallbacks := 0, inboundReceived := 0 } }

theorem common_broadcast (registry : Registry) (message : Message) (scope : String) :
    (registry.broadcast message scope).value.1.common
      = (registry.common.broadcast message scope).value.1 := rfl

end Registry

namespace Channel

variable {channel : Channel}

/-- The channel has one reader, which has nothing to come to. -/
structure CaughtUp (channel : Channel) : Prop where
  isOpen : channel.isOpen = true
  readers : channel.readers = [some channel.written]
  capacity_pos : 0 < channel.capacity

theorem CaughtUp.next (caughtUp : channel.CaughtUp) : channel.next 0 = (channel, .pending) := by
  have here : channel.position? 0 = some channel.written := by
    rw [position?, caughtUp.readers]
    rfl
  simp [Channel.next, here, caughtUp.isOpen]

theorem caughtUp_new (name : String) (capacity : Nat) :
    (Channel.new name capacity).subscribe.1.CaughtUp :=
  ⟨rfl, rfl, (holds_new name capacity fun _ => none).capacity_pos⟩

/-- The reader of a channel finds what is written next, and has then caught up again. -/
theorem CaughtUp.write (caughtUp : channel.CaughtUp) (message : Bytes) :
    ∃ after, (channel.write message).next 0 = (after, .item (.message message)) ∧
      after.name = channel.name ∧ after.CaughtUp := by
  have heard : channel.receivers ≠ 0 := by simp [receivers, caughtUp.readers]
  have here : (channel.write message).position? 0 = some channel.written := by
    rw [position?_write, position?, caughtUp.readers]
    rfl
  have written : (channel.write message).written = channel.written + 1 := by
    rw [written_write, if_neg heard]
  have kept : (channel.write message).kept = (channel.kept ++ [message]).drop
      (channel.kept.length + 1 - channel.capacity) := by
    simp [Channel.write, heard]
  have length : (channel.write message).kept.length
      = channel.kept.length + 1 - (channel.kept.length + 1 - channel.capacity) := by
    simp [kept]
  have last : (channel.write message).kept[(channel.write message).kept.length - 1]?
      = some message := by
    have place : channel.kept.length + 1 - channel.capacity
        + ((channel.write message).kept.length - 1) = channel.kept.length := by
      have positive := caughtUp.capacity_pos
      omega
    rw [kept, List.getElem?_drop, ← kept, place, List.getElem?_concat_length]
  refine ⟨(channel.write message).setPosition 0 (some (channel.written + 1)), ?_, ?_, ?_⟩
  · have positive := caughtUp.capacity_pos
    simp only [Channel.next, here, written, Nat.add_sub_cancel_left, last]
    rw [if_neg (by omega)]
  · exact name_write message
  · refine ⟨(isOpen_write message).trans caughtUp.isOpen, ?_, ?_⟩
    · simp [setPosition, Channel.write, heard, caughtUp.readers]
    · simp only [setPosition, Channel.write, if_neg heard]
      exact caughtUp.capacity_pos

end Channel

namespace Situation

open Network

def fabric : Situation → Fabric
  | .drained capacity | .ended capacity => (Fabric.empty.addHub capacity).1
  | .unavailable => (Fabric.empty.addBus .unavailable).1
  | .unreachable address => (Fabric.empty.addBus (.unreachable address)).1
  | .writeFailing capacity =>
    (Fabric.addBus { Fabric.empty with hubs := [.new capacity] } (.writeFailing 0)).1

/-- The broker in its situation, before anything happens at it. -/
def network (config : BrokerConfig) (situation : Situation) : Network :=
  let started := (Network.mk situation.fabric []).step (.start config)
  match situation with
  | .ended _ => (started.step .shutdown).step (.turn 0)
  | _ => started

/-- What is always the case in a situation. -/
def Fits (fabric : Fabric) (broker : Broker) : Situation → Prop
  | .drained _ => broker.listening = true ∧ broker.inbound.stream? = some (.hub 0 0 0) ∧
    ∃ capacity channel, fabric = ⟨[⟨capacity, [channel]⟩], [], [.memory 0]⟩ ∧
      channel.name = broker.channel ∧ channel.CaughtUp
  | .unavailable => broker.inbound.stream? = none ∧ fabric = ⟨[], [], [.unavailable]⟩
  | .unreachable address => broker.inbound.stream? = none ∧
    fabric = ⟨[], [], [.unreachable address]⟩
  | .writeFailing _ => broker.inbound.stream? = some (.hub 0 0 0) ∧
    ∃ capacity channel, fabric = ⟨[⟨capacity, [channel]⟩], [], [.writeFailing 0]⟩ ∧
      channel.CaughtUp
  | .ended _ => broker.listening = false ∧ broker.inbound.stream? = none ∧
    ∃ hub, fabric = ⟨[hub], [], [.memory 0]⟩

variable {situation : Situation} {fabric : Fabric} {broker broker' : Broker}

theorem Fits.stays (fits : situation.Fits fabric broker) (stays : broker.Stays broker') :
    situation.Fits fabric broker' := by
  cases situation <;>
    simpa only [Fits, stays.channel, stays.stream, stays.listening] using fits

/-! ## The loop -/

theorem turn_pending {stream : Stream} (here : broker.inbound.stream? = some stream)
    (nothing : (fabric.next stream).value = (fabric, .pending)) :
    ((Network.mk fabric [broker]).turn 0).value
      = (⟨fabric, [{ broker with inbound := .running stream }]⟩, .idle) := by
  simp only [turn, List.getElem?_cons_zero, here]
  generalize fabric.next stream = logged at nothing ⊢
  obtain ⟨⟨fabric, next⟩, notices⟩ := logged
  cases nothing
  cases broker.inbound <;> rfl

theorem turn_none (here : broker.inbound.stream? = none) :
    ((Network.mk fabric [broker]).turn 0).value = (⟨fabric, [broker]⟩, .idle) := by
  simp [turn, here]

theorem next_caughtUp {capacity : Nat} {channel : Channel} {buses : List Bus}
    (caughtUp : channel.CaughtUp) :
    (Fabric.next ⟨[⟨capacity, [channel]⟩], [], buses⟩ (.hub 0 0 0)).value
      = (⟨[⟨capacity, [channel]⟩], [], buses⟩, .pending) := by
  simp [Fabric.next, Hub.next, caughtUp.next]

/-- The loop, if there is one, finds nothing to read. -/
theorem Fits.turn (fits : situation.Fits fabric broker) :
    ∃ after, broker.Stays after ∧ after.registry = broker.registry ∧
      ((Network.mk fabric [broker]).turn 0).value = (⟨fabric, [after]⟩, .idle) := by
  have waits {stream : Stream} (here : broker.inbound.stream? = some stream)
      (nothing : (fabric.next stream).value = (fabric, .pending)) :
      ∃ after, broker.Stays after ∧ after.registry = broker.registry ∧
        ((Network.mk fabric [broker]).turn 0).value = (⟨fabric, [after]⟩, .idle) :=
    ⟨{ broker with inbound := .running stream }, ⟨rfl, rfl, here.symm, rfl, rfl⟩, rfl,
      turn_pending here nothing⟩
  cases situation with
  | drained =>
    obtain ⟨_, stream, capacity, channel, rfl, _, caughtUp⟩ := fits
    exact waits stream (next_caughtUp caughtUp)
  | writeFailing =>
    obtain ⟨stream, capacity, channel, rfl, caughtUp⟩ := fits
    exact waits stream (next_caughtUp caughtUp)
  | unavailable | unreachable => exact ⟨broker, .refl broker, rfl, turn_none fits.1⟩
  | ended => exact ⟨broker, .refl broker, rfl, turn_none fits.2.1⟩

theorem turns_moved {network after : Network} {index : Nat} (fuel : Nat)
    (moves : (network.turn index).value = (after, .moved)) :
    (network.turns index (fuel + 1)).value = (after.turns index fuel).value := by
  rw [turns, Logged.value_bind, moves]

theorem turns_idle {network after : Network} {index : Nat} (fuel : Nat)
    (idles : (network.turn index).value = (after, .idle)) :
    (network.turns index (fuel + 1)).value = after := by
  rw [turns, Logged.value_bind, idles]
  rfl

theorem settle_single {stream : Stream} (here : broker.inbound.stream? = some stream) :
    (Network.mk fabric [broker]).settle.value
      = ((Network.mk fabric [broker]).turns 0 (fabric.unread stream + 2)).value := by
  simp only [settle, List.length_singleton, List.range_one, List.foldlM_cons, List.foldlM_nil,
    Logged.value_bind, Logged.value_pure, settleBroker, List.getElem?_cons_zero, Option.bind_some,
    here]

/-! ## Publishing -/

def perform (situation : Situation) (network : Network) (step : Local) : Network :=
  match situation, step with
  | .drained _, .publish _ => (network.step step.step).settle.value
  | _, _ => network.step step.step

theorem write_single {capacity : Nat} {channel : Channel} (isOpen : channel.isOpen = true)
    (message : Bytes) :
    ((⟨capacity, [channel]⟩ : Hub).write channel.name message).1
      = ⟨capacity, [channel.write message]⟩ := by
  simp [Hub.write, Hub.channel, Hub.find?, List.findIdx?_cons, isOpen]

/-- The broker that is in its situation, on a bus by itself. -/
structure Stands (situation : Situation) (fabric : Fabric) (broker : Broker) : Prop where
  bus : broker.bus = 0
  running : broker.closed = false
  fits : situation.Fits fabric broker

theorem Stands.stays (stands : situation.Stands fabric broker) (stays : broker.Stays broker') :
    situation.Stands fabric broker' :=
  ⟨stays.bus.trans stands.bus, stays.closed.trans stands.running, stands.fits.stays stays⟩

/-- The loop brings back what was published and is then where it was. -/
theorem publish_drained {capacity : Nat} (stands : (drained capacity).Stands fabric broker)
    {event : Event Payload} {envelope : Envelope}
    (sealed : Envelope.sealEvent event = .ok envelope) :
    ∃ fabric' broker', (drained capacity).perform ⟨fabric, [broker]⟩ (.publish event)
        = ⟨fabric', [broker']⟩ ∧ (drained capacity).Stands fabric' broker' ∧
      broker'.registry.common
        = (broker.registry.common.broadcast envelope.data envelope.scope).value.1 := by
  obtain ⟨listening, stream, size, channel, rfl, named, caughtUp⟩ := stands.fits
  obtain ⟨after, next, named', caughtUp'⟩ := caughtUp.write envelope.encode
  have written : (Network.mk ⟨[⟨size, [channel]⟩], [], [.memory 0]⟩ [broker]).step
      (.publish 0 event) = .onHub ⟨size, [channel.write envelope.encode]⟩ [broker] := by
    rw [← write_single caughtUp.isOpen, named]
    exact publish_listening rfl stands.bus stands.running listening sealed
  have hubNext : Hub.next ⟨size, [channel.write envelope.encode]⟩ 0 0
      = (⟨size, [after]⟩, .item (.message envelope.encode)) := by
    simp [Hub.next, next]
  let running : Broker := { broker with inbound := .running (.hub 0 0 0) }
  have taken := running.take_message (Envelope.decode_encode_of_sealEvent sealed)
  have reads : ((Network.onHub ⟨size, [channel.write envelope.encode]⟩ [broker]).turn 0).value
      = (⟨⟨[⟨size, [after]⟩], [], [.memory 0]⟩,
        [(running.take (.message envelope.encode)).value]⟩, .moved) := by
    rw [turn_value rfl stream, hubNext]
    rfl
  have behind : (drained capacity).Stands ⟨[⟨size, [after]⟩], [], [.memory 0]⟩ running :=
    ⟨stands.bus, stands.running, listening, rfl, size, after, rfl, named'.trans named, caughtUp'⟩
  have stands' := behind.stays (running.take_spec (.message envelope.encode)).1
  obtain ⟨last, stays, same, idles⟩ := stands'.fits.turn
  refine ⟨_, last, ?_, stands'.stays stays, ?_⟩
  · simp only [perform, Local.step, written]
    exact (settle_single stream).trans ((turns_moved _ reads).trans (turns_idle _ idles))
  · rw [same, taken, ← Registry.common_broadcast]
    rfl

/-- A broker that is not drained broadcasts what is published at once. -/
theorem publish_at_once (stands : situation.Stands fabric broker)
    (other : ∀ capacity, situation ≠ .drained capacity) {event : Event Payload}
    {envelope : Envelope} (sealed : Envelope.sealEvent event = .ok envelope) :
    ∃ fabric' broker', situation.perform ⟨fabric, [broker]⟩ (.publish event)
        = ⟨fabric', [broker']⟩ ∧ situation.Stands fabric' broker' ∧
      broker'.registry.common
        = (broker.registry.common.broadcast envelope.data envelope.scope).value.1 := by
  have published : (Network.mk fabric [broker]).step (.publish 0 event) = _ :=
    publish_sealed _ rfl stands.running sealed
  rw [stands.bus] at published
  have fits := stands.fits
  cases situation with
  | drained capacity => exact absurd rfl (other capacity)
  | unavailable =>
    obtain ⟨_, rfl⟩ := fits
    exact ⟨_, _, published, stands.stays ⟨rfl, rfl, rfl, rfl, rfl⟩, rfl⟩
  | unreachable address =>
    obtain ⟨_, rfl⟩ := fits
    exact ⟨_, _, published, stands.stays ⟨rfl, rfl, rfl, rfl, rfl⟩, rfl⟩
  | writeFailing capacity =>
    obtain ⟨_, size, channel, rfl, _⟩ := fits
    exact ⟨_, _, published, stands.stays ⟨rfl, rfl, rfl, rfl, rfl⟩, rfl⟩
  | ended capacity =>
    obtain ⟨down, gone, hub, rfl⟩ := fits
    have direct : (Network.onHub hub [broker]).step (.publish 0 event) = _ :=
      publish_direct rfl stands.bus stands.running down sealed
    exact ⟨_, _, direct, ⟨stands.bus, stands.running, down, gone, _, rfl⟩, rfl⟩

end Situation

end Fanout
