import Fanout.Envelope
import Fanout.Proofs.Event

/-! An envelope whose data are one value is read back as it was sent, and the envelope of an event
that can be written is never refused by its readers. -/

namespace Fanout.Envelope
open Text Json

theorem encode_eq (envelope : Envelope) :
    encode envelope = 0x7B :: (writeString "scope" ++ 0x3A :: (writeString envelope.scope
      ++ 0x2C :: (writeString "data" ++ 0x3A :: (envelope.data ++ [0x7D])))) := by
  simp [encode]

theorem ofText_encode {envelope : Envelope} (value : IsValue envelope.data) :
    schema.ofText (encode envelope) = .ok envelope := by
  have ended : Ended [0x7D] := ended_close .object []
  rw [encode_eq]
  refine Schema.ofText_object ?_
  refine (Schema.readMembers_member rfl rfl (Field.run_of (Reader.text_writeString _ _))).trans ?_
  refine (Schema.readMembers_member rfl rfl (Field.run_of (value.readRaw ended))).trans ?_
  exact Schema.readMembers_close rfl

/-- On the way over a bus only the data can be refused, and by their own text. -/
theorem decode_encode {envelope : Envelope} (value : IsValue envelope.data) :
    decode (encode envelope) = match Event.check envelope.data with
      | .error fault => .error (faultError .decode envelope.data fault)
      | .ok _ => .ok envelope := by
  cases checked : Event.check envelope.data <;> simp only [decode, ofText_encode value, checked]

theorem sealEvent_of_write {event : Event Payload} {text : Bytes}
    (written : event.write = .ok text) :
    sealEvent event = .ok ⟨event.scope, text⟩ := by
  obtain ⟨_, _, value, _⟩ := Event.write_spec written
  simp only [sealEvent, written, dataOfText, value.whole_readRaw]

theorem write_of_sealEvent {event : Event Payload} {envelope : Envelope}
    (sealed : sealEvent event = .ok envelope) :
    event.write = .ok envelope.data ∧ envelope.scope = event.scope := by
  cases written : event.write with
  | error => simp [sealEvent, written] at sealed
  | ok text =>
    rw [sealEvent_of_write written] at sealed
    cases sealed
    exact ⟨rfl, rfl⟩

theorem decode_encode_of_sealEvent {event : Event Payload} {envelope : Envelope}
    (sealed : sealEvent event = .ok envelope) : decode (encode envelope) = .ok envelope := by
  obtain ⟨written, _⟩ := write_of_sealEvent sealed
  obtain ⟨_, _, value, checked⟩ := Event.write_spec written
  rw [decode_encode value, checked]

/-- No content of an event changes what its readers see of it: the scope that it is routed by, the
text that is passed on, and the type, the scope and the presence of a payload within that text. -/
theorem decode_encode_written {event : Event Payload}
    (serializes : ∀ payload ∈ event.payload, ∃ text, payload.write = .ok text) :
    ∃ text seen, event.write = .ok text ∧
      sealEvent event = .ok ⟨event.scope, text⟩ ∧
      decode (encode ⟨event.scope, text⟩) = .ok ⟨event.scope, text⟩ ∧
      Event.check text = .ok ⟨event.type, event.scope, seen⟩ ∧
      (seen = none ↔ event.payload = none ∨
        ∃ payload, event.payload = some payload ∧ payload.write = .ok Value.null.write) := by
  obtain ⟨payload, carried⟩ := Event.exists_payloadText serializes
  have written : event.write = .ok (Event.writeParts event.type event.scope payload) := by
    rw [Event.write_eq, carried, Except.map]
  obtain ⟨payload', carried', _, checked⟩ := Event.write_spec written
  cases carried.symm.trans carried'
  have sealed := sealEvent_of_write written
  exact ⟨_, _, written, sealed, decode_encode_of_sealEvent sealed, checked,
    Event.presence_eq_none_iff carried⟩

/-- An event whose strings imitate the structure around them. -/
def imitating : Event Payload :=
  .of "created\",\"scope\":\"" "room\",\"data\":[" (.value (.string "\"\x7d,null"))

theorem decode_encode_imitating :
    (∀ payload ∈ imitating.payload, ∃ text, payload.write = .ok text) ∧
    ∃ text seen, imitating.write = .ok text ∧
      sealEvent imitating = .ok ⟨imitating.scope, text⟩ ∧
      decode (encode ⟨imitating.scope, text⟩) = .ok ⟨imitating.scope, text⟩ ∧
      Event.check text = .ok ⟨imitating.type, imitating.scope, seen⟩ ∧
      (seen = none ↔ imitating.payload = none ∨
        ∃ payload, imitating.payload = some payload ∧ payload.write = .ok Value.null.write) := by
  have serializes : ∀ payload ∈ imitating.payload, ∃ text, payload.write = .ok text := by
    intro payload member
    cases member
    exact ⟨_, rfl⟩
  exact ⟨serializes, decode_encode_written serializes⟩

end Fanout.Envelope
