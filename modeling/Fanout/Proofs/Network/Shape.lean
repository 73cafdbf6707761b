import Fanout.Proofs.Envelope.Canonical
import Fanout.Proofs.Network.Completeness
import Fanout.Proofs.Network.Contents

/-! What a message looks like that gets to a client. The data of an envelope pass as an event if they are
an object with one type, and also if they are a list that begins with a type. Brokers write objects
alone, so whatever is a list was written by somebody else. -/

namespace Fanout
open Text Json

theorem Json.MembersText.getLast? {turn : Turn} {ms : List (String × Bytes)} {p : Bytes}
    (text : MembersText turn ms p) : p.getLast? = some 0x7D := by
  induction text with
  | close => simp
  | member _ _ _ _ _ _ _ last => simp [List.getLast?_append, List.getLast?_cons, last]

theorem Json.ItemsText.getLast? {turn : Turn} {vs : List Bytes} {p : Bytes}
    (text : ItemsText turn vs p) : p.getLast? = some 0x5D := by
  induction text with
  | close => simp
  | item _ _ _ _ last => simp [List.getLast?_append, last]

namespace Event

/-- The text of an object with one type, which is a string. -/
def IsObject (text : Bytes) : Prop :=
  ∃ ms v type, ObjectText ms text ∧ valuesOf "type" ms = [v] ∧ Quotes type v

/-- The text of a list whose first item is a string, with two items more at most. -/
def IsList (text : Bytes) : Prop :=
  ∃ v vs type, ListText (v :: vs) text ∧ Quotes type v ∧ vs.length ≤ 2

variable {text : Bytes}

theorem IsObject.ends (object : IsObject text) :
    text.head? = some 0x7B ∧ text.getLast? = some 0x7D := by
  obtain ⟨_, _, _, ⟨p, members, rfl⟩, _⟩ := object
  refine ⟨rfl, ?_⟩
  rw [List.getLast?_cons, members.getLast?]
  rfl

theorem IsList.ends (list : IsList text) :
    text.head? = some 0x5B ∧ text.getLast? = some 0x5D := by
  obtain ⟨_, _, _, ⟨p, items, rfl⟩, _⟩ := list
  refine ⟨rfl, ?_⟩
  rw [List.getLast?_cons, items.getLast?]
  rfl

theorem IsList.not_object (list : IsList text) : ¬ IsObject text := by
  intro object
  have first := object.ends.1
  rw [list.ends.1] at first
  contradiction

theorem isObject_iff_of_or (either : IsObject text ∨ IsList text) :
    IsObject text ↔ ¬ IsList text :=
  ⟨fun object list => list.not_object object, either.resolve_right⟩

theorem Spelled.object_or_list (spelled : Spelled text) : IsObject text ∨ IsList text := by
  cases spelled with
  | object object single quotes _ _ => exact .inl ⟨_, _, _, object, single, quotes⟩
  | @list vs _ list least most strings =>
    match vs, least with
    | v :: vs, _ =>
      obtain ⟨type, quotes⟩ := strings v (by simp)
      exact .inr ⟨v, vs, type, list, quotes, Nat.le_of_succ_le_succ most⟩

/-- What is accepted as an event without blanks around it is an object or a list. -/
theorem object_or_list_of_check (value : Spells .value text)
    (checked : ∃ event, check text = .ok event) : IsObject text ∨ IsList text := by
  obtain ⟨inner, json, spelled⟩ := check_iff.mp checked
  cases json.eq value
  exact spelled.object_or_list

/-- An event is written as an object. -/
theorem isObject_of_write {event : Event Payload} (written : event.write = .ok text) :
    IsObject text := by
  obtain ⟨payload, carried, value, checked⟩ := write_spec written
  have first : text.head? = some 0x7B := by
    rw [write_eq, carried, Except.map, Except.ok.injEq] at written
    rw [← written, writeParts_eq, List.head?_cons]
  rcases object_or_list_of_check (isValue_iff.mp value).1 ⟨_, checked⟩ with object | list
  · exact object
  · rw [list.ends.1] at first
    contradiction

end Event

theorem Envelope.object_or_list_of_decode {message : Bytes} {envelope : Envelope}
    (decoded : decode message = .ok envelope) :
    Event.IsObject envelope.data ∨ Event.IsList envelope.data :=
  Event.object_or_list_of_check (isValue_iff.mp (isValue_of_decode decoded)).1
    (decode_eq_ok_iff.mp decoded).2

theorem Passable.object_or_list {message : Message} (passable : Passable message) :
    Event.IsObject message ∨ Event.IsList message := by
  cases passable with
  | written written => exact .inl (Event.isObject_of_write written)
  | decoded decoded => exact Envelope.object_or_list_of_decode decoded

namespace Chronicle

/-- A message that is no object was taken out of an envelope that no broker wrote. -/
theorem foreign_of_enqueued {capacity : Nat} {steps : List Step} {id : ClientId} {n : Nat}
    {message : Message} (member : (n, message) ∈ (run capacity steps).enqueued id)
    (other : ¬ Event.IsObject message) : ∃ broker write scope,
      (run capacity steps).network.brokers[id.registry]? = some broker ∧
      ((run capacity steps).writesOn broker.channel)[n]? = some write ∧ write.event = none ∧
      Envelope.decode write.message = .ok ⟨scope, message⟩ := by
  obtain ⟨hub, brokers, sound⟩ := sound_run capacity steps
  obtain ⟨broker, _, bytes, scope, here, _, known, decoded, _⟩ :=
    (routed_run capacity steps).origin id n message (mem_enqueued.mp member)
  obtain ⟨write, there, carries⟩ := sound.carries known decoded
  refine ⟨broker, write, scope, here, there, ?_⟩
  unfold Write.Carries at carries
  cases published : write.event with
  | none =>
    rw [published] at carries
    exact ⟨rfl, carries⟩
  | some event =>
    rw [published] at carries
    exact absurd (Event.isObject_of_write carries.1) other

end Chronicle

/-- What is read from a message on a bus is an object with one type, which is a string, unless it is a
list that begins with a type. Whatever the buses are, the same holds of all that is ever queued for a
client; and on a bus in memory no list is queued but one that came in a write of somebody else. -/
theorem Event.object_or_list_passes (message : Bytes) (fabric : Fabric) (acts : List Act)
    (capacity : Nat) (steps : List Step) :
    (∀ envelope, Envelope.decode message = .ok envelope →
      (envelope.data.head? = some 0x7B ∧ envelope.data.getLast? = some 0x7D ∧
        IsObject envelope.data ↔ ¬ IsList envelope.data)) ∧
    (∀ (index : Nat) (broker : Broker) (client : Client) (text : Message),
      (Network.acts ⟨fabric, []⟩ acts).brokers[index]? = some broker →
        client ∈ broker.registry.clients → text ∈ client.queue →
        (IsObject text ↔ ¬ IsList text)) ∧
    ∀ (id : ClientId) (n : Nat) (text : Message),
      (n, text) ∈ (Chronicle.run capacity steps).enqueued id → ¬ IsObject text →
        IsList text ∧ ∃ broker write scope,
          (Chronicle.run capacity steps).network.brokers[id.registry]? = some broker ∧
          ((Chronicle.run capacity steps).writesOn broker.channel)[n]? = some write ∧
          write.event = none ∧ Envelope.decode write.message = .ok ⟨scope, text⟩ := by
  refine ⟨?_, ?_, ?_⟩
  · intro envelope decoded
    have shape := isObject_iff_of_or (Envelope.object_or_list_of_decode decoded)
    constructor
    · rintro ⟨_, _, object⟩
      exact shape.mp object
    · intro noList
      have object := shape.mpr noList
      exact ⟨object.ends.1, object.ends.2, object⟩
  · intro index broker client text here member queued
    have nobody : Network.Carries ⟨fabric, []⟩ := fun _ _ absent => by contradiction
    exact isObject_iff_of_or
      (nobody.acts acts index broker here client member text queued).object_or_list
  · intro id n text member other
    obtain ⟨broker, write, scope, here, there, foreign, decoded⟩ :=
      Chronicle.foreign_of_enqueued member other
    have list := (Envelope.object_or_list_of_decode decoded).resolve_left other
    exact ⟨list, broker, write, scope, here, there, foreign, decoded⟩

namespace Chronicle
open Envelope

theorem isList_brief : Event.IsList brief :=
  ⟨_, [], "t", listText_brief, quotes_brief, by decide⟩

theorem decode_brief : decode (encode ⟨"a", brief⟩) = .ok ⟨"a", brief⟩ :=
  decode_encode_of_decode decode_listed

/-- A foreign write of a list, which the loop of the broker reads. -/
def listing : List Step := [.write "room" (encode ⟨"a", brief⟩), .turn 0]

theorem network_listing : (run 4 (joining ++ listing)).network
    = .onHub ⟨4, [⟨"room", 4, 1, [encode ⟨"a", brief⟩], [some 1], true⟩]⟩
      [⟨0, "room", ⟨0, 1, [⟨"a", true, true, true, [brief]⟩], ⟨1, 0, 0, 0, 1, 0, 0⟩⟩,
        .running (.hub 0 0 0), true, false⟩] := by
  have stepped : (run 4 (joining ++ listing)).network
      = ((run 4 joining).network.step (.write "room" (encode ⟨"a", brief⟩))).step (.turn 0) := rfl
  have taken := Broker.take_message ⟨0, "room", ⟨0, 1, [.opened "a"], .zero⟩,
    .running (.hub 0 0 0), true, false⟩ decode_brief
  rw [stepped, network_joining, Network.step_write, Network.step_turn rfl rfl]
  exact congrArg (fun b => Network.onHub _ [b]) taken

/-- A list passes, and a client gets it. -/
theorem not_object_brief : decode (encode ⟨"a", brief⟩) = .ok ⟨"a", brief⟩ ∧
    (encode ⟨"a", brief⟩).map (Char.ofNat ·.toNat)
      = "\x7b\"scope\":\"a\",\"data\":[\"t\"]\x7d".toList ∧
    brief.head? = some 0x5B ∧ ¬ Event.IsObject brief ∧
    (run 4 (joining ++ listing)).network.queue ⟨0, 0⟩ = [brief] := by
  refine ⟨decode_brief, by decide, rfl, isList_brief.not_object, ?_⟩
  rw [network_listing]
  rfl

theorem object_or_list_passes_listing : decode listed = .ok ⟨"a", brief⟩ ∧
    (brief.head? = some 0x7B ∧ brief.getLast? = some 0x7D ∧ Event.IsObject brief
      ↔ ¬ Event.IsList brief) ∧ (Event.IsObject brief ↔ ¬ Event.IsList brief) := by
  obtain ⟨decodes, queues, _⟩ := Event.object_or_list_passes listed (Fabric.empty.addHub 4).1
    ((joining ++ listing).map (.on 0)) 4 []
  have here : (Network.acts ⟨(Fabric.empty.addHub 4).1, []⟩
      ((joining ++ listing).map (.on 0))).brokers[0]? = _ :=
    congrArg (·.brokers[0]?) network_listing
  exact ⟨decode_listed, decodes _ decode_listed,
    queues 0 _ _ brief here List.mem_cons_self List.mem_cons_self⟩

end Chronicle

end Fanout
