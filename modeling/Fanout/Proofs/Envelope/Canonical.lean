import Fanout.Proofs.Envelope.Grammar

/-! Messages as they are written. Whatever the data of an envelope are, its message is an envelope
again; it is accepted if and only if the data are an event, and then nothing of it has changed. So
what was read from a message of any spelling is written in one spelling. -/

namespace Fanout.Envelope
open Text Json

variable {message : Bytes} {envelope : Envelope}

/-- The data of an envelope that was read are one value. -/
theorem isValue_of_decode (decoded : decode message = .ok envelope) : IsValue envelope.data := by
  obtain ⟨_, _, spelled, isText⟩ := ofText_iff.mp (decode_eq_ok_iff.mp decoded).1
  exact isValue_iff.mpr ⟨spelled.value, isText⟩

/-- What becomes of an envelope on the way over a bus. -/
structure Rereads (envelope : Envelope) : Prop where
  written : ∃ text, IsJson envelope.encode text ∧ envelope.Spelled text
  accepted : ∀ found, decode envelope.encode = .ok found ↔
    found = envelope ∧ ∃ event, Event.check envelope.data = .ok event
  refused : (∀ event, Event.check envelope.data ≠ .ok event) →
    ∃ error, decode envelope.encode = .error error ∧ error.kind = .decode

theorem rereads_of_isValue (value : IsValue envelope.data) : envelope.Rereads := by
  have reads := ofText_encode value
  constructor
  case written =>
    obtain ⟨text, json, spelled, _⟩ := ofText_iff.mp reads
    exact ⟨text, json, spelled⟩
  case accepted =>
    intro found
    rw [decode_eq_ok_iff, reads]
    constructor
    · rintro ⟨same, event, checked⟩
      cases same
      exact ⟨rfl, event, checked⟩
    · rintro ⟨rfl, event, checked⟩
      exact ⟨rfl, event, checked⟩
  case refused =>
    intro none
    rw [decode_encode value]
    cases checked : Event.check envelope.data with
    | ok event => exact absurd checked (none event)
    | error fault => exact ⟨_, rfl, rfl⟩

/-- What was accepted once is accepted again as it is written, and is the same. -/
theorem decode_encode_of_decode (decoded : decode message = .ok envelope) :
    decode envelope.encode = .ok envelope :=
  ((rereads_of_isValue (isValue_of_decode decoded)).accepted envelope).mpr
    ⟨rfl, (decode_eq_ok_iff.mp decoded).2⟩

/-- For every scope and all data that are one JSON text, what is written is an envelope; it is read
back if the data are an event and is refused as undecodable otherwise. What any message was read as
is the same after another way over the bus, and the message is then the same from there on. -/
theorem encode_canonical :
    (∀ (scope : String) (data : Bytes), Spells .value data → Utf8.IsText data →
      Rereads ⟨scope, data⟩) ∧
    ∀ (message : Bytes) (envelope : Envelope), decode message = .ok envelope →
      ∃ again, decode envelope.encode = .ok again ∧ again.scope = envelope.scope ∧
        again.data = envelope.data ∧ again.encode = envelope.encode := by
  constructor
  · intro scope data value isText
    exact rereads_of_isValue (isValue_iff.mpr ⟨value, isText⟩)
  · intro message envelope decoded
    exact ⟨envelope, decode_encode_of_decode decoded, rfl, rfl, rfl⟩

/-- The list of one type. -/
def brief : Bytes := [0x5B, 0x22, 0x74, 0x22, 0x5D]

theorem quotes_brief : Quotes "t" [0x22, 0x74, 0x22] := by
  have text : StringText ['t'] ([0x74] ++ []) :=
    .cons (.plain ⟨by decide, by decide, by decide⟩) .nil
  exact ⟨_, text, rfl⟩

theorem listText_brief : ListText [[0x22, 0x74, 0x22]] brief :=
  ⟨_, .item .first blank_nil quotes_brief.spells (.close blank_nil), rfl⟩

theorem isText_brief : Utf8.IsText brief := Utf8.isText_ascii (by decide)

theorem check_brief : ∃ event, Event.check brief = .ok event := by
  have spelled : Event.Spelled brief :=
    .list listText_brief (by decide) (by decide) (by simpa using ⟨_, quotes_brief⟩)
  exact Event.check_iff.mpr ⟨brief, isJson_of_spells listText_brief.spells, spelled⟩

/-- An envelope in a list, with a blank ahead of its scope and the scope in an escape. -/
def listed : Bytes :=
  [0x5B, 0x20, 0x22, 0x5C, 0x75, 0x30, 0x30, 0x36, 0x31, 0x22, 0x2C] ++ brief ++ [0x5D]

theorem decode_listed : decode listed = .ok ⟨"a", brief⟩ := by
  have escape : StringText ['a'] ([0x5C, 0x75, 0x30, 0x30, 0x36, 0x31] ++ []) :=
    .cons (.unit (.digits (i := 0) (j := 0) (k := 6) (l := 1) rfl rfl rfl rfl) rfl rfl) .nil
  have quotes : Quotes "a" [0x22, 0x5C, 0x75, 0x30, 0x30, 0x36, 0x31, 0x22] := ⟨_, escape, rfl⟩
  have spaced : Blank [0x20] := by simp [Blank]
  have list : ListText [[0x22, 0x5C, 0x75, 0x30, 0x30, 0x36, 0x31, 0x22], brief] listed :=
    ⟨_, .item .first spaced quotes.spells (.item (.later blank_nil) blank_nil
      listText_brief.spells (.close blank_nil)), rfl⟩
  exact decode_eq_ok_iff.mpr ⟨ofText_iff.mpr ⟨listed, isJson_of_spells list.spells,
    .list list quotes, isText_brief⟩, check_brief⟩

theorem encode_canonical_listed : decode listed = .ok ⟨"a", brief⟩ ∧
    Rereads ⟨"\"", brief⟩ ∧
    ∃ again, decode (encode ⟨"a", brief⟩) = .ok again ∧ again.scope = "a" ∧ again.data = brief ∧
      again.encode = encode ⟨"a", brief⟩ :=
  ⟨decode_listed, encode_canonical.1 "\"" brief listText_brief.spells isText_brief,
    encode_canonical.2 listed ⟨"a", brief⟩ decode_listed⟩

end Fanout.Envelope
