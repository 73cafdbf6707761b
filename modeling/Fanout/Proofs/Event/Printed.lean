import Fanout.Proofs.Envelope
import Fanout.Proofs.Json.Spacing

/-! No control character gets into the text of an event whose payload is a value. The writer escapes
those of a string, be it a name, a type or a scope, and puts none between the tokens. -/

namespace Fanout.Json
open Text

/-! ## Strings -/

theorem printed_hexDigit {n : Nat} (digit : n < 16) : ¬ (Text.hexDigit n).toUInt8 < 0x20 :=
  hexValue?_printed (hexValue?_hexDigit n digit)

theorem printed_writeChar (c : Char) : Printed (writeChar c) := by
  rcases writeChar_cases c with ⟨plain, same⟩ | ⟨e, escape, same⟩ | ⟨control, same⟩
  · intro b member
    rw [same] at member
    exact (plain.bytes member).2.2
  · have simple : isSimpleEscape e = true := by
      rw [isSimpleEscape_iff, escape, Option.isSome_some]
    rw [same]
    exact .cons (by decide) (.cons (isSimpleEscape_printed simple) nofun)
  · have high := printed_hexDigit (n := c.toNat / 16) (by omega)
    have low := printed_hexDigit (n := c.toNat % 16) (by omega)
    rw [same]
    refine .append (p := [0x5C, 0x75, 0x30, 0x30]) (printed_of_all rfl) ?_
    exact .cons high (.cons low nofun)

theorem printed_writeString (s : String) : Printed (writeString s) := by
  refine .cons (by decide) (.append ?_ (printed_of_all rfl))
  intro b member
  obtain ⟨c, _, inside⟩ := List.mem_flatMap.mp member
  exact printed_writeChar c b inside

/-! ## Values -/

theorem IsNumeral.printed {p : Bytes} (numeral : IsNumeral p) : Printed p := by
  obtain ⟨n, text⟩ := numeral
  exact text.printed

theorem printed_number (n : Number) : Printed n.write := by
  cases n with
  | integer i => exact (isNumeral_integer i).printed
  | float x =>
    simp only [Number.write]
    cases written : floatLayout.write? (.ofFloat x) with
    | none => exact printed_of_all rfl
    | some p => exact (isNumeral_of_write? (Decimal.representable_ofFloat x) written).printed

/-- A name and its value, which stand in an object. -/
theorem printed_member (k : String) {v : Bytes} (value : Printed v) :
    Printed (writeString k ++ 0x3A :: v) :=
  (printed_writeString k).append (value.cons (by decide))

mutual

theorem Value.printed_write : ∀ v : Value, Printed v.write
  | .null => printed_of_all rfl
  | .bool true => printed_of_all rfl
  | .bool false => printed_of_all rfl
  | .number n => printed_number n
  | .string s => printed_writeString s
  | .array [] => printed_of_all rfl
  | .array (v :: vs) =>
    .append (v.printed_write.cons (by decide)) (printed_writeItems vs)
  | .object [] => printed_of_all rfl
  | .object ((k, v) :: vs) => by
    have members := (printed_member k v.printed_write).append (printed_writeMembers vs)
    simpa [Value.write] using members.cons (b := 0x7B) (by decide)

theorem printed_writeItems : ∀ vs : List Value, Printed (Value.writeItems vs)
  | [] => printed_of_all rfl
  | v :: vs => .append (v.printed_write.cons (by decide)) (printed_writeItems vs)

theorem printed_writeMembers : ∀ vs : List (String × Value), Printed (Value.writeMembers vs)
  | [] => printed_of_all rfl
  | (k, v) :: vs => by
    have members := (printed_member k v.printed_write).append (printed_writeMembers vs)
    simpa [Value.writeMembers] using members.cons (b := 0x2C) (by decide)

end

end Fanout.Json

namespace Fanout.Event
open Json

/-! ## Events -/

theorem printed_payloadTail {payload : Option Bytes} (printed : ∀ text ∈ payload, Printed text) :
    Printed (payloadTail payload) := by
  cases payload with
  | none => exact printed_of_all rfl
  | some text =>
    have member := printed_member "payload" ((printed text rfl).append (q := [0x7D])
      (printed_of_all rfl))
    exact member.cons (by decide)

theorem printed_writeParts (type scope : String) {payload : Option Bytes}
    (printed : ∀ text ∈ payload, Printed text) : Printed (writeParts type scope payload) := by
  have rest : Printed (scopeTail scope payload) := by
    unfold scopeTail
    split
    · exact printed_payloadTail printed
    · have member := printed_member "scope"
        ((printed_writeString scope).append (printed_payloadTail printed))
      exact member.cons (by decide)
  rw [writeParts_eq]
  exact (printed_member "type" ((printed_writeString type).append rest)).cons (by decide)

/-- The message of an event that carries a value or nothing. -/
def text (event : Event Value) : Bytes :=
  writeParts event.type event.scope (event.payload.map Value.write)

/-- Such an event can always be written. -/
theorem write_map_value (event : Event Value) : (event.map .value).write = .ok event.text := by
  obtain ⟨type, scope, payload⟩ := event
  cases payload <;> rfl

theorem printed_text (event : Event Value) : Printed event.text := by
  refine printed_writeParts event.type event.scope fun text member => ?_
  obtain ⟨v, _, rfl⟩ := Option.map_eq_some_iff.mp member
  exact v.printed_write

theorem sealEvent_map_value (event : Event Value) :
    Envelope.sealEvent (event.map .value) = .ok ⟨event.scope, event.text⟩ :=
  Envelope.sealEvent_of_write event.write_map_value

end Fanout.Event
