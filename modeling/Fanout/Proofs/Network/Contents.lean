import Fanout.Proofs.Envelope.Grammar
import Fanout.Proofs.Network.Closing

/-! What is in the queues. Every message that gets there was written for an event or was taken out of
an envelope off the bus; in either case it is one JSON value. -/

namespace Fanout

/-- A message that can reach a client: the text of an event, or the data of an envelope. -/
inductive Passable : Message → Prop where
  | written {event : Event Payload} {text : Message} : event.write = .ok text → Passable text
  | decoded {message : Bytes} {envelope : Envelope} : Envelope.decode message = .ok envelope →
      Passable envelope.data

theorem Passable.spells {message : Message} (passable : Passable message) :
    Json.Spells .value message := by
  cases passable with
  | written written =>
    obtain ⟨_, _, value, _⟩ := Event.write_spec written
    exact (Json.isValue_iff.mp value).1
  | decoded decoded =>
    obtain ⟨_, _, spelled, _⟩ := Envelope.ofText_iff.mp (Envelope.decode_eq_ok_iff.mp decoded).1
    exact spelled.value

theorem Client.mem_queue_of_receive {client : Client} {message : Message}
    (received : client.receive.2 = .ok message) : message ∈ client.queue := by
  unfold Client.receive at received
  split at received
  · rename_i queued
    cases received
    rw [queued]
    exact List.mem_cons_self
  · contradiction

namespace Broker

/-- Every message that is queued for a client can have got there. -/
def Carries (broker : Broker) : Prop :=
  ∀ client ∈ broker.registry.clients, ∀ message ∈ client.queue, Passable message

variable {broker : Broker} {fabric : Fabric}

theorem Carries.broadcast (carries : broker.Carries) {message : Message}
    (passable : Passable message) (scope : String) :
    (broker.broadcast message scope).value.1.Carries := by
  have clients := broker.registry.broadcast_clients message scope
  intro client member queued inQueue
  simp only [Broker.broadcast, Logged.value_bind, Logged.value_pure, clients] at member
  obtain ⟨before, here, rfl⟩ := List.mem_map.mp member
  by_cases takes : before.Takes broker.registry.capacity scope
  · rw [Client.hear_of_takes takes] at inQueue
    rcases List.mem_append.mp inQueue with old | new
    · exact carries before here queued old
    · cases List.mem_singleton.mp new
      exact passable
  · rw [Client.hear_of_not_takes takes] at inQueue
    exact carries before here queued inQueue

theorem Carries.tally (carries : broker.Carries) (f : Stats → Stats) :
    (broker.tally f).Carries := carries

theorem Carries.take (carries : broker.Carries) (item : BusItem) :
    (broker.take item).value.Carries := by
  cases item with
  | lagged lost => exact carries
  | message message =>
    cases decoded : Envelope.decode message with
    | error fault =>
      rw [take_malformed broker decoded]
      exact carries.tally _
    | ok envelope =>
      rw [take_message broker decoded]
      exact (carries.tally _).broadcast (.decoded decoded) envelope.scope

theorem Carries.published (carries : broker.Carries) (fabric : Fabric) (event : Event Payload) :
    (broker.published fabric event).2.Carries := by
  unfold Broker.published
  split
  · exact carries
  split
  · exact carries.tally _
  rename_i envelope sealed
  have passable : Passable envelope.data := .written (Envelope.write_of_sealEvent sealed).1
  split
  · split
    · exact carries
    · exact carries.broadcast passable envelope.scope
  · exact (carries.tally _).broadcast passable envelope.scope

theorem Carries.turned (carries : broker.Carries) (fabric : Fabric) :
    (broker.turned fabric).2.Carries := by
  cases reads : broker.inbound.stream? with
  | none =>
    rw [turned_idle reads]
    exact carries
  | some stream =>
    have running : ({ broker with inbound := .running stream } : Broker).Carries := carries
    rw [turned_stream reads]
    cases (fabric.next stream).value.2 with
    | pending | ended => exact carries
    | item item => exact running.take item

theorem Carries.onClient (carries : broker.Carries) (serial : Nat) {f : Client → Client}
    (less : ∀ client, ∀ message ∈ (f client).queue, message ∈ client.queue) :
    (broker.onClient serial f).Carries := by
  intro client member message queued
  obtain ⟨place, here⟩ := List.mem_iff_getElem?.mp member
  obtain ⟨before, there, rfl⟩ := getElem?_modify_cases here
  refine carries before (List.mem_of_getElem? there) message ?_
  split at queued
  · exact less before message queued
  · exact queued

theorem Carries.shut (carries : broker.Carries) (fabric : Fabric) :
    (broker.shut fabric).2.Carries := by
  have closed (client : Client) (member : client ∈ broker.registry.closeAll.value.clients) :
      ∀ message ∈ client.queue, Passable message := by
    rw [Registry.closeAll_value] at member
    obtain ⟨before, here, rfl⟩ := List.mem_map.mp member
    exact carries before here
  unfold Broker.shut
  cases broker.inbound.stream? <;> exact closed

theorem Carries.joined (carries : broker.Carries) (filter : String) :
    (broker.joined filter).Carries := by
  intro client member message queued
  rcases List.mem_append.mp member with old | new
  · exact carries client old message queued
  · split at new
    · contradiction
    · cases List.mem_singleton.mp new
      contradiction

theorem Carries.perform (carries : broker.Carries) (fabric : Fabric) (act : Act) :
    (broker.perform fabric act).2.Carries := by
  cases act with
  | closing j | stop bus => exact carries
  | on bus step =>
    cases step with
    | start | write | shutdown => exact carries
    | publish j event => exact carries.published fabric event
    | turn j => exact carries.turned fabric
    | close j => exact carries.shut fabric
    | subscribe j filter =>
      rw [perform_subscribe]
      exact carries.joined filter
    | unsubscribe id | dropHandle id => exact carries.onClient id.serial fun _ _ queued => queued
    | dropReceiver id =>
      exact carries.onClient id.serial fun _ _ queued => absurd queued List.not_mem_nil
    | receive id =>
      refine carries.onClient id.serial fun client message queued => ?_
      rw [Client.receive_fst] at queued
      exact List.mem_of_mem_tail queued

end Broker

namespace Network

/-- Every message that is queued in the network can have got there. -/
def Carries (network : Network) : Prop :=
  ∀ (index : Nat) (broker : Broker), network.brokers[index]? = some broker → broker.Carries

variable {network : Network}

theorem Carries.act (carries : network.Carries) (act : Act) : (network.act act).Carries := by
  intro index broker there
  rcases broker_before there with ⟨before, here⟩ | ⟨bus, config, _, _, rfl⟩
  · have after := broker_act act here
    cases there.symm.trans after
    split
    · exact (carries index before here).perform network.fabric act
    · exact carries index before here
  · intro client member
    rw [Broker.fresh_registry] at member
    contradiction

theorem Carries.acts (carries : network.Carries) (acts : List Act) :
    (network.acts acts).Carries := by
  induction acts generalizing network with
  | nil => exact carries
  | cons act acts ih => exact ih (carries.act act)

/-- A message that a client finds was queued for it. -/
theorem Carries.findable (carries : network.Carries) {id : ClientId} {message : Message}
    (found : network.findable id = .ok message) : Passable message := by
  unfold Network.findable at found
  cases here : network.brokers[id.registry]? with
  | none =>
    rw [here] at found
    contradiction
  | some broker =>
    rw [here, Option.map_some, Option.getD_some, Registry.receive_snd] at found
    cases there : broker.registry.clients[id.serial]? with
    | none => simp [there] at found
    | some client =>
      rw [there, Option.map_some, Option.getD_some] at found
      exact carries id.registry broker here client (List.mem_of_getElem? there) message
        (Client.mem_queue_of_receive found)

/-- Every message that is received in a run can have got to a client. -/
theorem Carries.received (carries : network.Carries) {id : ClientId} {acts : List Act}
    {message : Message} (found : .ok message ∈ network.received id acts) : Passable message := by
  induction acts generalizing network with
  | nil => contradiction
  | cons act acts ih =>
    rcases List.mem_append.mp found with now | later
    · split at now
      · exact carries.findable (List.mem_singleton.mp now).symm
      · contradiction
    · exact ih (carries.act act) later

end Network

end Fanout
