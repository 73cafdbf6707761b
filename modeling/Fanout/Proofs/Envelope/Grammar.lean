import Fanout.Proofs.Envelope
import Fanout.Proofs.Json.Schema

/-! The grammar of messages. A message is accepted if and only if it is one JSON text that spells an
envelope, and the envelope's data spell an event; the envelope that is returned is the one spelled. -/

namespace Fanout
open Text Json

/-- The string among these values if there is one, and else the empty one. -/
inductive StringOf : List Bytes → String → Prop where
  | none : StringOf [] ""
  | one {v : Bytes} {s : String} : Quotes s v → StringOf [v] s

/-- The texts of events: an object with one type, at most one scope and at most one payload among
other members, or a list of these in their order of which the last ones may be missing. -/
inductive Event.Spelled : Bytes → Prop where
  | object {ms : List (String × Bytes)} {text v : Bytes} {type scope : String} :
      ObjectText ms text → valuesOf "type" ms = [v] → Quotes type v →
      StringOf (valuesOf "scope" ms) scope → (valuesOf "payload" ms).length ≤ 1 →
      Event.Spelled text
  | list {vs : List Bytes} {text : Bytes} : ListText vs text → 1 ≤ vs.length → vs.length ≤ 3 →
      (∀ v ∈ vs.take 2, ∃ s, Quotes s v) → Event.Spelled text

/-- The texts that spell an envelope: an object with its data and at most its scope among other
members, or a list of the scope and the data. -/
inductive Envelope.Spelled (envelope : Envelope) : Bytes → Prop where
  | object {ms : List (String × Bytes)} {text : Bytes} : ObjectText ms text →
      valuesOf "data" ms = [envelope.data] → StringOf (valuesOf "scope" ms) envelope.scope →
      envelope.Spelled text
  | list {v text : Bytes} : ListText [v, envelope.data] text → Quotes envelope.scope v →
      envelope.Spelled text

/-! ## Values of members and items -/

theorem Json.MembersText.value {turn : Turn} {ms : List (String × Bytes)} {p v : Bytes}
    {name : String} (text : MembersText turn ms p) (member : v ∈ valuesOf name ms) :
    Spells .value v := by
  induction text with
  | close => contradiction
  | @member _ key ms _ _ _ _ _ u _ _ _ _ _ _ value _ ih =>
    rw [valuesOf_cons] at member
    split at member
    · rcases List.mem_cons.mp member with rfl | member
      · exact value
      · exact ih member
    · exact ih member

theorem Json.ItemsText.value {turn : Turn} {vs : List Bytes} {p v : Bytes}
    (text : ItemsText turn vs p) (member : v ∈ vs) : Spells .value v := by
  induction text with
  | close => contradiction
  | item _ _ value _ ih =>
    rcases List.mem_cons.mp member with rfl | member
    · exact value
    · exact ih member

theorem Json.Reader.raw_value_iff {v data : Bytes} (value : Spells .value v) :
    Reader.raw.run v = .ok (data, []) ↔ data = v ∧ Utf8.IsText v := by
  constructor
  · intro read
    obtain ⟨w, blank, _, text, same⟩ := raw_spec read
    rw [List.append_nil] at same
    cases blank.eq_nil value same
    exact ⟨same.symm, same ▸ text⟩
  · rintro ⟨rfl, text⟩
    simpa using raw_run blank_nil value text ended_nil

/-- A string that may be missing, as the field that reads it has it. -/
theorem stringOf_iff {vs : List Bytes} {s : String} (values : ∀ v ∈ vs, Spells .value v) :
    (∃ held, Reader.text.Gives none vs held ∧ held.getD "" = s) ↔ StringOf vs s := by
  constructor
  · rintro ⟨held, gives, rfl⟩
    rcases Reader.gives_none.mp gives with ⟨rfl, rfl⟩ | ⟨v, t, rfl, read, rfl⟩
    · exact .none
    · exact .one ((Reader.text_value_iff (values v List.mem_cons_self)).mp read)
  · rintro (_ | quotes)
    · exact ⟨none, .kept, rfl⟩
    · exact ⟨some s, .set ((Reader.text_value_iff quotes.spells).mpr quotes), rfl⟩

/-- The text of a value holds no other one. -/
theorem Json.IsJson.eq {text value : Bytes} (json : IsJson text value)
    (spells : Spells .value text) : value = text := by
  obtain ⟨w, w', before, inner, after, same⟩ := json
  cases before.eq_nil spells same
  rw [List.nil_append] at same
  have short := skipValue_of_spells blank_nil inner (after.ended ended_nil)
  have long := skipValue_of_spells blank_nil spells ended_nil
  simp only [List.append_nil, List.nil_append] at short long
  rw [← same, long] at short
  cases short
  rw [same, List.append_nil]

theorem Json.isJson_of_spells {text : Bytes} (spells : Spells .value text) : IsJson text text :=
  ⟨[], [], blank_nil, spells, blank_nil, by simp⟩

/-! ## Events -/

namespace Event

theorem ofValues_schema : (schema .skipped).OfValues := by
  intro field member parts
  simp only [schema, List.mem_cons, List.not_mem_nil, or_false] at member
  rcases member with rfl | rfl | rfl
  · exact Field.ofValues_of Reader.ofValues_text parts
  · exact Field.ofValues_of Reader.ofValues_text parts
  · exact Field.ofValues_of (Reader.ofValues_optional Reader.ofValues_skipped) parts

/-- Each field of an event takes the members of its name. -/
theorem takes_iff {ms : List (String × Bytes)} {before after : Parts Unit} :
    (schema .skipped).Takes before ms after ↔
      Reader.text.Gives before.type (valuesOf "type" ms) after.type ∧
      Reader.text.Gives before.scope (valuesOf "scope" ms) after.scope ∧
      Reader.skipped.optional.Gives before.payload (valuesOf "payload" ms) after.payload := by
  induction ms generalizing before with
  | nil =>
    simp only [Schema.takes_nil, valuesOf_nil, Reader.gives_nil]
    cases before
    cases after
    simp
  | cons m ms ih =>
    obtain ⟨name, v⟩ := m
    simp only [valuesOf_cons]
    by_cases type : name = "type"
    · subst type
      rw [Schema.takes_cons rfl, if_pos rfl, if_neg (by decide), if_neg (by decide),
        Reader.gives_cons]
      simp only [ih, ← exists_and_right, and_assoc]
    by_cases scope : name = "scope"
    · subst scope
      rw [Schema.takes_cons rfl, if_neg (by decide), if_pos rfl, if_neg (by decide),
        Reader.gives_cons]
      simp only [ih, and_left_comm, ← exists_and_right, and_assoc, exists_and_left]
    by_cases payload : name = "payload"
    · subst payload
      rw [Schema.takes_cons rfl, if_neg (by decide), if_neg (by decide), if_pos rfl,
        Reader.gives_cons]
      simp only [ih, and_left_comm, exists_and_left]
    · rw [Schema.takes_other, ih, if_neg type, if_neg scope, if_neg payload]
      simp [schema, Field.of, Ne.symm type, Ne.symm scope, Ne.symm payload]

theorem build_iff {parts : Parts Unit} {event : Event Unit} :
    (schema .skipped).build parts = .ok event ↔
      ∃ type, parts.type = some type ∧ event = ⟨type, parts.scope.getD "", parts.payload.join⟩ := by
  simp only [schema]
  cases parts.type with
  | none => simp
  | some type => simp [eq_comm]

/-- Every value will do as a payload. -/
theorem optional_skipped_value {v : Bytes} (value : Spells .value v) :
    ∃ a, Reader.skipped.optional.run v = .ok (a, []) := by
  rw [Reader.optional_value value, Reader.skipped_value value]
  split
  · exact ⟨none, rfl⟩
  · exact ⟨some (), rfl⟩

theorem payload_iff {vs : List Bytes} (values : ∀ v ∈ vs, Spells .value v) :
    (∃ held, Reader.skipped.optional.Gives none vs held) ↔ vs.length ≤ 1 := by
  constructor
  · rintro ⟨held, gives⟩
    rcases Reader.gives_none.mp gives with ⟨rfl, _⟩ | ⟨v, a, rfl, _⟩ <;> simp
  · intro atMost
    match vs, atMost with
    | [], _ => exact ⟨none, .kept⟩
    | [v], _ =>
      obtain ⟨a, read⟩ := optional_skipped_value (values v List.mem_cons_self)
      exact ⟨some a, .set read⟩

theorem check_object {ms : List (String × Bytes)} {text : Bytes} (object : ObjectText ms text) :
    (∃ parts event, (schema .skipped).build parts = .ok event ∧
      (schema .skipped).Takes (schema .skipped).blank ms parts) ↔
    ∃ type scope v, valuesOf "type" ms = [v] ∧ Quotes type v ∧
      StringOf (valuesOf "scope" ms) scope ∧ (valuesOf "payload" ms).length ≤ 1 := by
  obtain ⟨p, members, rfl⟩ := object
  simp only [takes_iff, build_iff]
  constructor
  · rintro ⟨parts, _, ⟨type, present, _⟩, types, scopes, payloads⟩
    rw [present] at types
    rcases Reader.gives_none.mp types with ⟨_, absent⟩ | ⟨v, t, single, read, same⟩
    · contradiction
    · have value : Spells .value v :=
        members.value (show v ∈ valuesOf "type" ms by simp [single])
      exact ⟨t, _, v, single, (Reader.text_value_iff value).mp read,
        (stringOf_iff fun v => members.value).mp ⟨_, scopes, rfl⟩,
        (payload_iff fun v => members.value).mp ⟨_, payloads⟩⟩
  · rintro ⟨type, scope, v, single, quotes, scopes, payloads⟩
    obtain ⟨scope, givesScope, _⟩ := (stringOf_iff fun v => members.value).mpr scopes
    obtain ⟨payload, givesPayload⟩ := (payload_iff fun v => members.value).mpr payloads
    refine ⟨⟨some type, scope, payload⟩, _, ⟨type, rfl, rfl⟩, ?_, givesScope, givesPayload⟩
    rw [single]
    exact .set ((Reader.text_value_iff quotes.spells).mpr quotes)

theorem check_list {vs : List Bytes} {text : Bytes} (list : ListText vs text) :
    (∃ parts event, (schema .skipped).build parts = .ok event ∧
      Field.TakesItems (schema .skipped).blank (schema .skipped).fields vs parts) ↔
    1 ≤ vs.length ∧ vs.length ≤ 3 ∧ ∀ v ∈ vs.take 2, ∃ s, Quotes s v := by
  obtain ⟨p, items, rfl⟩ := list
  have values : ∀ v ∈ vs, Spells .value v := fun v => items.value
  simp only [schema]
  match vs with
  | [] => simp [Field.takesItems_nil]
  | [v] =>
    have value := values v (by simp)
    simp [Field.takesItems_cons, Field.takesItems_nil, Reader.text_value_iff value]
  | [v, w] =>
    have value := values v (by simp)
    have value' := values w (by simp)
    simp [Field.takesItems_cons, Field.takesItems_nil, Reader.text_value_iff value,
      Reader.text_value_iff value']
  | [v, w, x] =>
    have value := values v (by simp)
    have value' := values w (by simp)
    have payload := optional_skipped_value (values x (by simp))
    simp [Field.takesItems_cons, Field.takesItems_nil, Reader.text_value_iff value,
      Reader.text_value_iff value', payload]
  | v :: w :: x :: y :: vs => simp [Field.takesItems_cons, Field.not_takesItems]

/-- A text is accepted as an event if and only if it is one JSON text that spells one. -/
theorem check_iff {text : Bytes} :
    (∃ event, check text = .ok event) ↔ ∃ value, IsJson text value ∧ Spelled value := by
  simp only [check, Schema.ofText_iff ofValues_schema]
  constructor
  · rintro ⟨event, value, parts, json, build, ⟨ms, object, takes⟩ | ⟨vs, list, takes⟩⟩
    · obtain ⟨type, scope, v, single, quotes, scopes, payloads⟩ :=
        (check_object object).mp ⟨parts, event, build, takes⟩
      exact ⟨value, json, .object object single quotes scopes payloads⟩
    · obtain ⟨least, most, strings⟩ := (check_list list).mp ⟨parts, event, build, takes⟩
      exact ⟨value, json, .list list least most strings⟩
  · rintro ⟨value, json, ⟨object, single, quotes, scopes, payloads⟩ | ⟨list, least, most, strings⟩⟩
    · obtain ⟨parts, event, build, takes⟩ :=
        (check_object object).mpr ⟨_, _, _, single, quotes, scopes, payloads⟩
      exact ⟨event, value, parts, json, build, .inl ⟨_, object, takes⟩⟩
    · obtain ⟨parts, event, build, takes⟩ := (check_list list).mpr ⟨least, most, strings⟩
      exact ⟨event, value, parts, json, build, .inr ⟨_, list, takes⟩⟩

end Event

/-! ## Envelopes -/

namespace Envelope

theorem ofValues_schema : schema.OfValues := by
  intro field member parts
  simp only [schema, List.mem_cons, List.not_mem_nil, or_false] at member
  rcases member with rfl | rfl
  · exact Field.ofValues_of Reader.ofValues_text parts
  · exact Field.ofValues_of Reader.ofValues_raw parts

theorem takes_iff {ms : List (String × Bytes)} {before after : Parts} :
    schema.Takes before ms after ↔
      Reader.text.Gives before.scope (valuesOf "scope" ms) after.scope ∧
      Reader.raw.Gives before.data (valuesOf "data" ms) after.data := by
  induction ms generalizing before with
  | nil =>
    simp only [Schema.takes_nil, valuesOf_nil, Reader.gives_nil]
    cases before
    cases after
    simp
  | cons m ms ih =>
    obtain ⟨name, v⟩ := m
    simp only [valuesOf_cons]
    by_cases scope : name = "scope"
    · subst scope
      rw [Schema.takes_cons rfl, if_pos rfl, if_neg (by decide), Reader.gives_cons]
      simp only [ih, ← exists_and_right, and_assoc]
    by_cases data : name = "data"
    · subst data
      rw [Schema.takes_cons rfl, if_neg (by decide), if_pos rfl, Reader.gives_cons]
      simp only [ih, and_left_comm, exists_and_left]
    · rw [Schema.takes_other, ih, if_neg scope, if_neg data]
      simp [schema, Field.of, Ne.symm scope, Ne.symm data]

theorem build_iff {parts : Parts} {envelope : Envelope} :
    schema.build parts = .ok envelope ↔
      parts.data = some envelope.data ∧ parts.scope.getD "" = envelope.scope := by
  obtain ⟨scope, data⟩ := envelope
  simp only [schema]
  cases parts.data with
  | none => simp
  | some found => simp [and_comm]

theorem takes_object {ms : List (String × Bytes)} {text : Bytes} {envelope : Envelope}
    (object : ObjectText ms text) :
    (∃ parts, schema.build parts = .ok envelope ∧ schema.Takes schema.blank ms parts) ↔
      valuesOf "data" ms = [envelope.data] ∧ StringOf (valuesOf "scope" ms) envelope.scope ∧
        Utf8.IsText envelope.data := by
  obtain ⟨p, members, rfl⟩ := object
  simp only [takes_iff, build_iff]
  constructor
  · rintro ⟨parts, ⟨present, scope⟩, scopes, datas⟩
    rw [present] at datas
    rcases Reader.gives_none.mp datas with ⟨_, absent⟩ | ⟨v, data, single, read, same⟩
    · contradiction
    · have value : Spells .value v :=
        members.value (show v ∈ valuesOf "data" ms by simp [single])
      obtain ⟨rfl, isText⟩ := (Reader.raw_value_iff value).mp read
      cases same
      exact ⟨single, (stringOf_iff fun v => members.value).mp ⟨_, scopes, scope⟩, isText⟩
  · rintro ⟨single, scopes, isText⟩
    obtain ⟨scope, gives, same⟩ := (stringOf_iff fun v => members.value).mpr scopes
    have value : Spells .value envelope.data :=
      members.value (show envelope.data ∈ valuesOf "data" ms by simp [single])
    refine ⟨⟨scope, some envelope.data⟩, ⟨rfl, same⟩, gives, ?_⟩
    rw [single]
    exact .set ((Reader.raw_value_iff value).mpr ⟨rfl, isText⟩)

theorem takes_list {vs : List Bytes} {text : Bytes} {envelope : Envelope}
    (list : ListText vs text) :
    (∃ parts, schema.build parts = .ok envelope ∧
      Field.TakesItems schema.blank schema.fields vs parts) ↔
    ∃ v, vs = [v, envelope.data] ∧ Quotes envelope.scope v ∧ Utf8.IsText envelope.data := by
  obtain ⟨p, items, rfl⟩ := list
  have values : ∀ v ∈ vs, Spells .value v := fun v => items.value
  simp only [build_iff]
  match vs with
  | [] => simp [schema, Field.takesItems_nil]
  | [v] => simp [schema, Field.takesItems_cons, Field.takesItems_nil]
  | [v, w] =>
    have value := values v (by simp)
    have value' := values w (by simp)
    simp +contextual [schema, Field.takesItems_cons, Field.takesItems_nil,
      Reader.text_value_iff value, Reader.raw_value_iff value']
  | v :: w :: x :: vs => simp [schema, Field.takesItems_cons, Field.not_takesItems]

theorem ofText_iff {message : Bytes} {envelope : Envelope} :
    schema.ofText message = .ok envelope ↔
      ∃ text, IsJson message text ∧ envelope.Spelled text ∧ Utf8.IsText envelope.data := by
  rw [Schema.ofText_iff ofValues_schema]
  constructor
  · rintro ⟨text, parts, json, build, ⟨ms, object, takes⟩ | ⟨vs, list, takes⟩⟩
    · obtain ⟨single, scopes, isText⟩ := (takes_object object).mp ⟨parts, build, takes⟩
      exact ⟨text, json, .object object single scopes, isText⟩
    · obtain ⟨v, rfl, quotes, isText⟩ := (takes_list list).mp ⟨parts, build, takes⟩
      exact ⟨text, json, .list list quotes, isText⟩
  · rintro ⟨text, json, ⟨object, single, scopes⟩ | ⟨list, quotes⟩, isText⟩
    · obtain ⟨parts, build, takes⟩ := (takes_object object).mpr ⟨single, scopes, isText⟩
      exact ⟨text, parts, json, build, .inl ⟨_, object, takes⟩⟩
    · obtain ⟨parts, build, takes⟩ := (takes_list list).mpr ⟨_, rfl, quotes, isText⟩
      exact ⟨text, parts, json, build, .inr ⟨_, list, takes⟩⟩

theorem Spelled.value {text : Bytes} {envelope : Envelope} (spelled : envelope.Spelled text) :
    Spells .value envelope.data := by
  rcases spelled with ⟨⟨p, members, _⟩, single, _⟩ | ⟨⟨p, items, _⟩, _⟩
  · exact members.value (show envelope.data ∈ valuesOf "data" _ by simp [single])
  · exact items.value (by simp)

theorem decode_eq_ok_iff {message : Bytes} {envelope : Envelope} :
    decode message = .ok envelope ↔
      schema.ofText message = .ok envelope ∧ ∃ event, Event.check envelope.data = .ok event := by
  constructor
  · intro h
    unfold decode at h
    split at h
    · contradiction
    · rename_i read
      split at h
      · contradiction
      · rename_i event checked
        cases h
        exact ⟨read, event, checked⟩
  · rintro ⟨read, event, checked⟩
    simp only [decode, read, checked]

/-- A message is accepted if and only if it is one JSON text that spells an envelope whose data are
UTF-8 and spell an event, and then the envelope that it spells is returned. -/
theorem decode_iff {message : Bytes} {envelope : Envelope} :
    decode message = .ok envelope ↔
      ∃ text, IsJson message text ∧ envelope.Spelled text ∧ Utf8.IsText envelope.data ∧
        Event.Spelled envelope.data := by
  rw [decode_eq_ok_iff, ofText_iff, Event.check_iff]
  constructor
  · rintro ⟨⟨text, json, spelled, isText⟩, value, inner, event⟩
    cases inner.eq spelled.value
    exact ⟨text, json, spelled, isText, event⟩
  · rintro ⟨text, json, spelled, isText, event⟩
    exact ⟨⟨text, json, spelled, isText⟩, _, isJson_of_spells spelled.value, event⟩

end Envelope

end Fanout
