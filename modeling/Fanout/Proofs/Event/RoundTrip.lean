import Fanout.Proofs.Event
import Fanout.Proofs.Json.RoundTrip

/-! A published event is read back by its subscribers, who have room for one bracket less than a text
may open, because the event itself is in one. -/

namespace Fanout
open Text Json

namespace Event

/-- The event with no payload in the place of `null`. -/
def withoutNull (event : Event Value) : Event Value :=
  { event with payload := event.payload.filter fun v => !v.isNull }

section Fault
variable {P : Type} {reader : Reader P} {type scope : String} {text : Bytes} {fault : Fault}

/-- An event is not read if its payload is not. -/
theorem ofText_fault (read : reader.optional.run (text ++ [0x7D]) = .error fault) :
    (schema reader).ofText (writeParts type scope (some text)) = .error fault := by
  have member := nextMember_written .later "payload" (0x3A :: (text ++ [0x7D]))
  have colon : skipColon (0x3A :: (text ++ [0x7D])) = .ok (text ++ [0x7D]) := by
    simp [skipColon, skipSpace_of_head (b := 0x3A) rfl]
  have payload : (schema reader).readMembers .later ⟨some type, scopePart scope, none⟩
      (payloadTail (some text)) = .error fault :=
    Schema.readMembers_fault member rfl rfl colon (Field.run_fault read)
  rw [writeParts_eq]
  exact Schema.ofText_fault ((readMembers_written type scope (some text)).trans payload)

end Fault

theorem optional_write {v : Value} (exact : v.Exact) (free : v.Free) {room : Nat}
    (enough : v.depth ≤ room) {t : Bytes} (ended : Ended t) :
    (Reader.value room).optional.run (v.write ++ t)
      = .ok ((some v).filter fun v => !v.isNull, t) := by
  refine (v.isValue_write.optional ((readValue_write exact free ended).1 enough)).trans ?_
  have same := Value.write_eq_null exact free
  cases null : v.isNull with
  | true => simp [same.mpr null, Option.filter, null]
  | false =>
    have other : v.write ≠ nullText := by
      intro written
      rw [same.mp written] at null
      contradiction
    simp [other, Option.filter, null]

theorem optional_write_deep {v : Value} (exact : v.Exact) (free : v.Free) {room : Nat}
    (little : room < v.depth) {t : Bytes} (ended : Ended t) :
    ∃ rest, (Reader.value room).optional.run (v.write ++ t) = fail .nestedTooDeep rest := by
  obtain ⟨rest, stopped⟩ := (readValue_write exact free ended).2 little
  have notNull : v.write ≠ nullText := by
    intro written
    have null := (Value.write_eq_null exact free).mp written
    cases v <;> contradiction
  exact ⟨rest, Reader.optional_fault v.isValue_write notNull stopped⟩

/-- A written event is read back, but for a payload of `null`, if its payload opens no more than 126
brackets at once. If it opens more, reading it stops because it is nested too deeply. -/
theorem ofText_write {event : Event Value} (exact : ∀ v ∈ event.payload, v.Exact)
    (free : ∀ v ∈ event.payload, v.Free) :
    ∃ text, (event.map Payload.value).write = .ok text ∧
      ((∀ v ∈ event.payload, v.depth ≤ 126) → ofText text = .ok event.withoutNull) ∧
      ((∃ v ∈ event.payload, 126 < v.depth) → ∃ rest, ofText text = fail .nestedTooDeep rest) := by
  have ended : Ended [0x7D] := ended_close .object []
  obtain ⟨type, scope, payload⟩ := event
  cases payload with
  | none =>
    refine ⟨writeParts type scope none, rfl, fun _ => ?_, ?_⟩
    · exact ofText_written (readMembers_absent type scope)
    · rintro ⟨v, present, _⟩
      contradiction
  | some v =>
    refine ⟨writeParts type scope (some v.write), rfl, fun shallow => ?_, ?_⟩
    · have read := optional_write (exact v rfl) (free v rfl) (shallow v rfl) ended
      exact ofText_written (readMembers_payload read)
    · rintro ⟨w, present, deep⟩
      cases present
      obtain ⟨rest, read⟩ := optional_write_deep (exact v rfl) (free v rfl) deep ended
      exact ⟨rest, ofText_fault read⟩

/-- Integers at both ends of their range, and a list with a string that has to be escaped. -/
def extremes : Event Value :=
  ⟨"shift.updated", "unit:4", some (.object [("id", .number (.integer 18446744073709551615)),
    ("note", .array [.string "\"\n", .null]),
    ("zone", .number (.integer (-9223372036854775808)))])⟩

theorem ofText_write_extremes : ∃ text, (extremes.map Payload.value).write = .ok text ∧
    ofText text = .ok extremes := by
  obtain ⟨text, written, shallow, _⟩ := @ofText_write extremes
    (by
      rintro v ⟨⟩
      exact ⟨by decide, ⟨by decide, by decide⟩, ⟨trivial, trivial, trivial⟩,
        ⟨by decide, by decide⟩, trivial⟩)
    (by
      rintro v ⟨⟩
      refine ⟨?_, trivial, ⟨trivial, trivial, trivial⟩, trivial, trivial⟩
      rintro m ⟨⟩
      decide)
  refine ⟨text, written, shallow ?_⟩
  rintro v ⟨⟩
  decide

/-! ## The reserved name -/

/-- An object whose only member has the reserved name. -/
def reserved : Value := .object [(textKey, .number (.integer 1))]

theorem ofText_reserved : ofText (writeParts "shift.updated" "" (some reserved.write))
    = .error ⟨.unexpectedType (.integer 1) "raw value", [0x7D, 0x7D], none⟩ := by
  refine ofText_fault (Reader.optional_fault reserved.isValue_write ?_ ?_)
  · simp [reserved, Value.write, nullText]
  · exact readValue_reserved (by decide) (by decide) (by decide) [0x7D]

/-- A published event that is not read back, although its payload is neither deep nor inexact. -/
theorem reserved_not_read_back : reserved.Exact ∧ reserved.depth ≤ 126 ∧
    ∃ text, (Event.map Payload.value ⟨"shift.updated", "", some reserved⟩).write = .ok text ∧
      ∀ event, ofText text ≠ .ok event := by
  refine ⟨⟨by decide, ⟨by decide, by decide⟩, trivial⟩, by decide, _, rfl, ?_⟩
  intro event read
  cases read.symm.trans ofText_reserved

end Event

end Fanout
