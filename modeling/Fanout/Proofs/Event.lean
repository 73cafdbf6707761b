import Fanout.Event
import Fanout.Proofs.Json.Record

/-! What a payload is written as is one value, and so is a written event. Read back without its
payload, the event has the type and the scope it was written with, whatever the strings and the
payload hold. -/

namespace Fanout
open Text Json

theorem bind_eq_ok {α β : Type} {x : Except WriteFault α} {f : α → Except WriteFault β} {b : β}
    (h : x >>= f = .ok b) : ∃ a, x = .ok a ∧ f a = .ok b := by
  cases x with
  | error => contradiction
  | ok a => exact ⟨a, rfl, h⟩

/-! ## Payloads -/

theorem isPlain_integer {i : Int} {b : UInt8} (member : b ∈ Decimal.integer i) : IsPlain b := by
  cases i with
  | ofNat n => exact isPlain_of_isDigit ((wholeText_digits n).allDigits b member)
  | negSucc n =>
    rcases List.mem_cons.mp member with rfl | member
    · exact ⟨by decide, by decide, by decide⟩
    · exact isPlain_of_isDigit ((wholeText_digits (n + 1)).allDigits b member)

theorem Key.isName_of_write {key : Key} {text : Bytes} (h : key.write = .ok text) :
    IsName text := by
  cases key with
  | compound => contradiction
  | text s =>
    cases h
    exact isName_writeString s
  | integer i =>
    cases h
    obtain ⟨n, numeral⟩ := isNumeral_integer i
    have quote : Utf8.IsText [0x22] := Utf8.isText_ascii (by decide)
    constructor
    case isText => exact (numeral.isText.append quote).cons (by decide)
    case passed =>
      intro t
      refine ⟨Decimal.integer i ++ 0x22 :: t, by simp, ?_⟩
      rw [skipString_plains fun _ member => isPlain_integer member]
      exact skipString_close t

theorem isValue_writeReal {layout : Decimal.Layout} {x : Decimal.Binary}
    (finite : x.Representable) : IsValue (Payload.writeReal layout x) := by
  unfold Payload.writeReal
  cases written : layout.write? x with
  | none => exact isValue_null
  | some p => exact isValue_numeral (isNumeral_of_write? finite written)

mutual

theorem Payload.isValue_of_write :
    ∀ {payload : Payload} {text : Bytes}, payload.write = .ok text → IsValue text
  | .value v, _, h => by
    cases h
    exact v.isValue_write
  | .raw json, _, h => by
    cases h
    exact json.isValue_text
  | .float x, _, h => by
    cases h
    exact isValue_writeReal (Decimal.representable_ofFloat x)
  | .single x, _, h => by
    cases h
    exact isValue_writeReal (Decimal.representable_ofFloat32 x)
  | .integer i, _, h => by
    cases h
    exact isValue_numeral (isNumeral_integer i)
  | .list [], _, h => by
    cases h
    exact isValue_empty .list
  | .list (p :: ps), _, h => by
    obtain ⟨item, written, h⟩ := bind_eq_ok h
    obtain ⟨rest, writtenRest, h⟩ := bind_eq_ok h
    cases h
    exact (Payload.isValue_of_write written).item.isValue (Payload.isRest_of_writeItems writtenRest)
  | .map [], _, h => by
    cases h
    exact isValue_empty .object
  | .map ((k, p) :: ps), _, h => by
    obtain ⟨key, writtenKey, h⟩ := bind_eq_ok h
    obtain ⟨value, written, h⟩ := bind_eq_ok h
    obtain ⟨rest, writtenRest, h⟩ := bind_eq_ok h
    cases h
    have member := (Key.isName_of_write writtenKey).member (Payload.isValue_of_write written)
    simpa [Bracket.opening] using member.isValue (Payload.isRest_of_writeEntries writtenRest)
  | .refusing _, _, h => by contradiction

theorem Payload.isRest_of_writeItems :
    ∀ {items : List Payload} {text : Bytes}, Payload.writeItems items = .ok text →
      IsRest .list text
  | [], _, h => by
    cases h
    exact isRest_close .list
  | p :: ps, _, h => by
    obtain ⟨item, written, h⟩ := bind_eq_ok h
    obtain ⟨rest, writtenRest, h⟩ := bind_eq_ok h
    cases h
    exact (Payload.isValue_of_write written).item.rest (Payload.isRest_of_writeItems writtenRest)

theorem Payload.isRest_of_writeEntries :
    ∀ {entries : List (Key × Payload)} {text : Bytes}, Payload.writeEntries entries = .ok text →
      IsRest .object text
  | [], _, h => by
    cases h
    exact isRest_close .object
  | (k, p) :: ps, _, h => by
    obtain ⟨key, writtenKey, h⟩ := bind_eq_ok h
    obtain ⟨value, written, h⟩ := bind_eq_ok h
    obtain ⟨rest, writtenRest, h⟩ := bind_eq_ok h
    cases h
    have member := (Key.isName_of_write writtenKey).member (Payload.isValue_of_write written)
    simpa using member.rest (Payload.isRest_of_writeEntries writtenRest)

end

/-! ## Written events -/

namespace Event

/-- A written event from behind its scope. -/
def payloadTail : Option Bytes → Bytes
  | none => [0x7D]
  | some text => 0x2C :: (writeString "payload" ++ 0x3A :: (text ++ [0x7D]))

/-- A written event from behind its type. -/
def scopeTail (scope : String) (payload : Option Bytes) : Bytes :=
  if scope.isEmpty then payloadTail payload
  else 0x2C :: (writeString "scope" ++ 0x3A :: (writeString scope ++ payloadTail payload))

theorem writeParts_eq (type scope : String) (payload : Option Bytes) :
    writeParts type scope payload
      = 0x7B :: (writeString "type" ++ 0x3A :: (writeString type ++ scopeTail scope payload)) := by
  cases payload <;> by_cases empty : scope.isEmpty <;>
    simp [writeParts, scopeTail, payloadTail, empty]

theorem isRest_payloadTail {payload : Option Bytes} (values : ∀ text ∈ payload, IsValue text) :
    IsRest .object (payloadTail payload) := by
  cases payload with
  | none => exact isRest_close .object
  | some text =>
    have member := (isName_writeString "payload").member (values text rfl)
    simpa [payloadTail, Bracket.close] using member.rest (isRest_close .object)

theorem isRest_scopeTail (scope : String) {payload : Option Bytes}
    (values : ∀ text ∈ payload, IsValue text) : IsRest .object (scopeTail scope payload) := by
  have rest := isRest_payloadTail values
  unfold scopeTail
  split
  · exact rest
  · have member := (isName_writeString "scope").member (isName_writeString scope).isValue
    simpa using member.rest rest

theorem isValue_writeParts (type scope : String) {payload : Option Bytes}
    (values : ∀ text ∈ payload, IsValue text) : IsValue (writeParts type scope payload) := by
  have member := (isName_writeString "type").member (isName_writeString type).isValue
  rw [writeParts_eq]
  simpa [Bracket.opening] using member.isValue (isRest_scopeTail scope values)

/-- What is seen of a payload by a reader that keeps nothing of it. -/
def presence : Option Bytes → Option Unit
  | none => none
  | some text => if text = nullText then none else some ()

/-- What is read of a scope that was written. -/
def scopePart (scope : String) : Option String := if scope.isEmpty then none else some scope

theorem scopePart_getD (scope : String) : (scopePart scope).getD "" = scope := by
  unfold scopePart
  split
  · rename_i empty
    exact (String.isEmpty_iff.mp empty).symm
  · rfl

section Readers
variable {P : Type} {reader : Reader P}

/-- Every reader of events comes to the payload of a written event. -/
theorem readMembers_written (type scope : String) (payload : Option Bytes) :
    (schema reader).readMembers .first (schema reader).blank
        (writeString "type" ++ 0x3A :: (writeString type ++ scopeTail scope payload))
      = (schema reader).readMembers .later ⟨some type, scopePart scope, none⟩
          (payloadTail payload) := by
  have read := Reader.text_writeString type (scopeTail scope payload)
  refine (Schema.readMembers_member rfl rfl (Field.run_of read)).trans ?_
  unfold scopeTail scopePart
  split
  · rfl
  · have read := Reader.text_writeString scope (payloadTail payload)
    exact Schema.readMembers_member rfl rfl (Field.run_of read)

theorem ofText_written {type scope : String} {payload : Option Bytes} {event : Event P}
    (read : (schema reader).readMembers .later ⟨some type, scopePart scope, none⟩
      (payloadTail payload) = .ok (event, [])) :
    (schema reader).ofText (writeParts type scope payload) = .ok event := by
  rw [writeParts_eq]
  exact Schema.ofText_object ((readMembers_written type scope payload).trans read)

theorem readMembers_absent (type scope : String) :
    (schema reader).readMembers .later ⟨some type, scopePart scope, none⟩ (payloadTail none)
      = .ok (⟨type, scope, none⟩, []) := by
  refine (Schema.readMembers_close rfl).trans ?_
  rw [scopePart_getD]
  rfl

theorem readMembers_payload {type scope : String} {text : Bytes} {found : Option P}
    (read : reader.optional.run (text ++ [0x7D]) = .ok (found, [0x7D])) :
    (schema reader).readMembers .later ⟨some type, scopePart scope, none⟩ (payloadTail (some text))
      = .ok (⟨type, scope, found⟩, []) := by
  refine (Schema.readMembers_member rfl rfl (Field.run_of read)).trans ?_
  refine (Schema.readMembers_close rfl).trans ?_
  rw [scopePart_getD]
  rfl

end Readers

/-- The structure of a written event is what its reader sees. -/
theorem check_writeParts (type scope : String) {payload : Option Bytes}
    (values : ∀ text ∈ payload, IsValue text) :
    check (writeParts type scope payload) = .ok ⟨type, scope, presence payload⟩ := by
  refine ofText_written ?_
  cases payload with
  | none => exact readMembers_absent type scope
  | some text =>
    have value := values text rfl
    exact readMembers_payload (value.optional (value.skipped (ended_close .object [])))

/-- The text that the payload of an event is written as. -/
def payloadText (event : Event Payload) : Except WriteFault (Option Bytes) :=
  match event.payload with
  | none => .ok none
  | some payload => payload.write.map some

theorem write_eq (event : Event Payload) :
    event.write = event.payloadText.map (writeParts event.type event.scope) := by
  unfold write payloadText
  cases event.payload with
  | none => rfl
  | some payload => cases written : payload.write <;> simp [written, Except.map]

theorem payloadText_cases {event : Event Payload} {payload : Option Bytes}
    (h : event.payloadText = .ok payload) :
    (event.payload = none ∧ payload = none) ∨
      ∃ carried text, event.payload = some carried ∧ carried.write = .ok text ∧
        payload = some text := by
  unfold payloadText at h
  cases present : event.payload with
  | none =>
    simp only [present, Except.ok.injEq] at h
    exact .inl ⟨rfl, h.symm⟩
  | some carried =>
    simp only [present] at h
    cases written : carried.write with
    | error => simp [written, Except.map] at h
    | ok text =>
      simp only [written, Except.map, Except.ok.injEq] at h
      exact .inr ⟨carried, text, rfl, written, h.symm⟩

theorem exists_payloadText {event : Event Payload}
    (serializes : ∀ payload ∈ event.payload, ∃ text, payload.write = .ok text) :
    ∃ payload, event.payloadText = .ok payload := by
  unfold payloadText
  cases present : event.payload with
  | none => exact ⟨none, rfl⟩
  | some carried =>
    obtain ⟨text, written⟩ := serializes carried present
    exact ⟨some text, by simp only [written, Except.map]⟩

theorem isValue_of_payloadText {event : Event Payload} {payload : Option Bytes}
    (h : event.payloadText = .ok payload) : ∀ text ∈ payload, IsValue text := by
  rcases payloadText_cases h with ⟨_, rfl⟩ | ⟨carried, text, _, written, rfl⟩
  · intro text member
    contradiction
  · intro text member
    cases member
    exact Payload.isValue_of_write written

theorem presence_eq_none_iff {event : Event Payload} {payload : Option Bytes}
    (h : event.payloadText = .ok payload) :
    presence payload = none ↔ event.payload = none ∨
      ∃ carried, event.payload = some carried ∧ carried.write = .ok nullText := by
  rcases payloadText_cases h with ⟨absent, rfl⟩ | ⟨carried, text, present, written, rfl⟩
  · simp [presence, absent]
  · simp [presence, present, written]

/-- An event that is written is one value with the event's structure. -/
theorem write_spec {event : Event Payload} {text : Bytes} (h : event.write = .ok text) :
    ∃ payload, event.payloadText = .ok payload ∧ IsValue text ∧
      check text = .ok ⟨event.type, event.scope, presence payload⟩ := by
  rw [write_eq] at h
  cases written : event.payloadText with
  | error => simp [written, Except.map] at h
  | ok payload =>
    simp only [written, Except.map, Except.ok.injEq] at h
    subst h
    have values := isValue_of_payloadText written
    exact ⟨payload, rfl, isValue_writeParts _ _ values, check_writeParts _ _ values⟩

end Event

end Fanout
