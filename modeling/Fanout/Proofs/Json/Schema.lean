import Fanout.Proofs.Json.Members

/-! What a schema accepts: the objects whose members its fields take, each field one member at most,
and the lists whose items its fields take in their order. Members that belong to no field are passed
over. -/

namespace Fanout.Json
open Text

variable {Parts Whole : Type} {schema : Schema Parts Whole}

/-- The fields of a record are read by readers of values. -/
def Schema.OfValues (schema : Schema Parts Whole) : Prop :=
  ∀ field ∈ schema.fields, ∀ parts, (field.reader parts).OfValues

/-- The fields take from these members what turns the parts before into the parts behind. -/
inductive Schema.Takes (schema : Schema Parts Whole) :
    Parts → List (String × Bytes) → Parts → Prop where
  | nil {parts : Parts} : schema.Takes parts [] parts
  | field {field : Field Parts} {name : String} {v : Bytes} {ms : List (String × Bytes)}
      {parts parts' parts'' : Parts} : schema.fields.find? (·.name = name) = some field →
      field.isSet parts = false → (field.reader parts).run v = .ok (parts', []) →
      schema.Takes parts' ms parts'' → schema.Takes parts ((name, v) :: ms) parts''
  | other {name : String} {v : Bytes} {ms : List (String × Bytes)} {parts parts' : Parts} :
      schema.fields.find? (·.name = name) = none → schema.Takes parts ms parts' →
      schema.Takes parts ((name, v) :: ms) parts'

/-- The items are read one by one, each for the next field. -/
inductive Field.TakesItems : Parts → List (Field Parts) → List Bytes → Parts → Prop where
  | nil {fields : List (Field Parts)} {parts : Parts} : Field.TakesItems parts fields [] parts
  | cons {field : Field Parts} {fields : List (Field Parts)} {v : Bytes} {vs : List Bytes}
      {parts parts' parts'' : Parts} : (field.reader parts).run v = .ok (parts', []) →
      Field.TakesItems parts' fields vs parts'' →
      Field.TakesItems parts (field :: fields) (v :: vs) parts''

/-! ## Objects -/

section Objects
variable {turn : Turn} {parts parts' : Parts} {s r r' r'' : Bytes} {name : String} {whole : Whole}

theorem Schema.readMembers_other (member : nextMember turn s = .ok (some name, r))
    (unknown : schema.fields.find? (·.name = name) = none) (colon : skipColon r = .ok r')
    (skip : skipValue r' = .ok r'') :
    schema.readMembers turn parts s = schema.readMembers .later parts r'' := by
  rw [Schema.readMembers.eq_def]
  split
  · simp_all
  · simp_all
  · rename_i same
    cases member.symm.trans same
    split
    · simp_all
    · split
      · simp_all
      · rename_i same
        cases colon.symm.trans same
        split
        · simp_all
        · rename_i same
          cases skip.symm.trans same
          rfl

theorem Schema.ofValues_of_find? (values : schema.OfValues) {field : Field Parts}
    (found : schema.fields.find? (·.name = name) = some field) :
    (field.reader parts).OfValues :=
  values field (List.mem_of_find?_eq_some found) parts

/-- What was read of a member in front of others. -/
theorem MembersText.cons {ms : List (String × Bytes)} {w v p t : Bytes}
    (member : nextMember turn s = .ok (some name, r))
    (colon : skipColon r = .ok (w ++ (v ++ (p ++ t)))) (after : Blank w)
    (value : Spells .value v) (rest : MembersText .later ms p) :
    ∃ q, MembersText turn ((name, v) :: ms) q ∧ s = q ++ t := by
  rcases nextMember_iff.mp member with ⟨none, _⟩ | ⟨key, c, u, k, same, separates, before, text, rfl⟩
  · contradiction
  · cases same
    obtain ⟨w', between, rfl⟩ := skipColon_iff.mp colon
    exact ⟨_, .member separates before text between after value rest, by simp⟩

theorem Schema.takes_of_readMembers (values : schema.OfValues)
    (h : schema.readMembers turn parts s = .ok (whole, r)) :
    ∃ ms p parts', MembersText turn ms p ∧ s = p ++ r ∧ schema.Takes parts ms parts' ∧
      schema.build parts' = .ok whole := by
  fun_induction Schema.readMembers schema turn parts s with
  | case2 turn parts s r close whole build =>
    cases h
    rcases nextMember_iff.mp close with ⟨_, w, blank, rfl⟩ | ⟨_, _, _, _, some, _⟩
    · exact ⟨[], _, parts, .close blank, by simp, .nil, build⟩
    · contradiction
  | case7 turn parts s name u member _ field found unset u' colon _ parts' u'' read _ ih =>
    obtain ⟨ms, p, last, text, rfl, takes, build⟩ := ih h
    obtain ⟨w, v, blank, value, rfl, alone⟩ := (ofValues_of_find? values found).value read
    obtain ⟨q, text, same⟩ := text.cons member colon blank value
    exact ⟨_, q, last, text, same, .field found (by simpa using unset) alone takes, build⟩
  | case10 turn parts s name u member _ unknown u' colon _ u'' skip _ ih =>
    obtain ⟨ms, p, last, text, rfl, takes, build⟩ := ih h
    obtain ⟨w, v, blank, value, rfl⟩ := spells_of_skipValue skip
    obtain ⟨q, text, same⟩ := text.cons member colon blank value
    exact ⟨_, q, last, text, same, .other unknown takes, build⟩
  | _ => simp_all [fail]

theorem Schema.readMembers_of_takes (values : schema.OfValues) {ms : List (String × Bytes)}
    {p : Bytes} (text : MembersText turn ms p) (takes : schema.Takes parts ms parts')
    (build : schema.build parts' = .ok whole) (t : Bytes) :
    schema.readMembers turn parts (p ++ t) = .ok (whole, t) := by
  induction text generalizing parts with
  | @close turn w blank =>
    cases takes
    refine readMembers_none ?_ build
    exact nextMember_iff.mpr (.inl ⟨rfl, w, blank, by simp⟩)
  | @member turn name ms c w k w' w'' v p separates before key between after value rest ih =>
    have member : nextMember turn (c ++ (w ++ 0x22 :: (k ++ 0x22 :: (w' ++ 0x3A :: (w'' ++
        (v ++ (p ++ t))))))) = .ok (some name, w' ++ 0x3A :: (w'' ++ (v ++ (p ++ t)))) :=
      nextMember_iff.mpr (.inr ⟨name, c, w, k, rfl, separates, before, key, rfl⟩)
    have colon : skipColon (w' ++ 0x3A :: (w'' ++ (v ++ (p ++ t)))) = .ok (w'' ++ (v ++ (p ++ t))) :=
      skipColon_iff.mpr ⟨w', between, rfl⟩
    have ended : Ended (p ++ t) := rest.spells.ended t
    simp only [List.append_assoc, List.cons_append]
    cases takes with
    | field found unset read takes =>
      have read := (ofValues_of_find? values found).run after value read ended
      exact (readMembers_field member found unset colon read).trans (ih takes)
    | other unknown takes =>
      have skip := skipValue_of_spells after value ended
      exact (readMembers_other member unknown colon skip).trans (ih takes)

end Objects

/-! ## Fields by their names -/

/-- The texts of the values that members of this name have. -/
def valuesOf (name : String) (ms : List (String × Bytes)) : List Bytes :=
  (ms.filter (·.1 = name)).map (·.2)

@[simp] theorem valuesOf_nil (name : String) : valuesOf name [] = [] := rfl

theorem valuesOf_cons (name key : String) (v : Bytes) (ms : List (String × Bytes)) :
    valuesOf name ((key, v) :: ms) = if key = name then v :: valuesOf name ms
      else valuesOf name ms := by
  simp only [valuesOf, List.filter_cons, decide_eq_true_eq]
  split <;> rfl

theorem valuesOf_append (name : String) (ms ms' : List (String × Bytes)) :
    valuesOf name (ms ++ ms') = valuesOf name ms ++ valuesOf name ms' := by
  simp [valuesOf]

/-- What a field holds behind the values of its name: what it held before if there is none, and what
its reader makes of a single one if it held nothing. -/
inductive Reader.Gives {α : Type} (reader : Reader α) : Option α → List Bytes → Option α → Prop where
  | kept {held : Option α} : reader.Gives held [] held
  | set {v : Bytes} {a : α} : reader.run v = .ok (a, []) → reader.Gives none [v] (some a)

section Fields
variable {α : Type} {reader : Reader α} {held held' : Option α} {v : Bytes} {vs : List Bytes}

theorem Reader.gives_nil : reader.Gives held [] held' ↔ held' = held := by
  constructor
  · rintro ⟨⟩
    rfl
  · rintro rfl
    exact .kept

theorem Reader.gives_some {a : α} : reader.Gives (some a) vs held' ↔ vs = [] ∧ held' = some a := by
  constructor
  · rintro ⟨⟩
    exact ⟨rfl, rfl⟩
  · rintro ⟨rfl, rfl⟩
    exact .kept

theorem Reader.gives_none : reader.Gives none vs held' ↔
    (vs = [] ∧ held' = none) ∨ ∃ v a, vs = [v] ∧ reader.run v = .ok (a, []) ∧ held' = some a := by
  constructor
  · rintro (_ | read)
    · exact .inl ⟨rfl, rfl⟩
    · exact .inr ⟨_, _, rfl, read, rfl⟩
  · rintro (⟨rfl, rfl⟩ | ⟨v, a, rfl, read, rfl⟩)
    · exact .kept
    · exact .set read

theorem Reader.gives_cons : reader.Gives held (v :: vs) held' ↔
    held = none ∧ ∃ a, reader.run v = .ok (a, []) ∧ reader.Gives (some a) vs held' := by
  constructor
  · rintro (_ | read)
    exact ⟨rfl, _, read, .kept⟩
  · rintro ⟨rfl, a, read, rest⟩
    obtain ⟨rfl, rfl⟩ := gives_some.mp rest
    exact .set read

variable {name : String} {ms : List (String × Bytes)} {parts parts' : Parts}

theorem Schema.takes_nil : schema.Takes parts [] parts' ↔ parts' = parts := by
  constructor
  · rintro ⟨⟩
    rfl
  · rintro rfl
    exact .nil

/-- A member of a field's name is taken by that field. -/
theorem Schema.takes_cons {get : Parts → Option α} {set : Parts → α → Parts}
    (found : schema.fields.find? (·.name = name) = some (.of name get set reader)) :
    schema.Takes parts ((name, v) :: ms) parts' ↔
      get parts = none ∧ ∃ a, reader.run v = .ok (a, []) ∧ schema.Takes (set parts a) ms parts' := by
  constructor
  · rintro (_ | ⟨found', unset, read, rest⟩ | ⟨unknown, _⟩)
    · cases found.symm.trans found'
      cases alone : reader.run v with
      | error f => simp [Field.of, alone, Except.map] at read
      | ok result =>
        obtain ⟨a, r⟩ := result
        simp only [Field.of, alone] at read
        cases read
        exact ⟨by simpa [Field.of] using unset, a, rfl, rest⟩
    · cases found.symm.trans unknown
  · rintro ⟨unset, a, read, rest⟩
    exact .field found (by simp [Field.of, unset]) (Field.run_of read) rest

theorem Schema.takes_other (unknown : schema.fields.find? (·.name = name) = none) :
    schema.Takes parts ((name, v) :: ms) parts' ↔ schema.Takes parts ms parts' := by
  constructor
  · rintro (_ | ⟨found, _, _, _⟩ | ⟨_, rest⟩)
    · cases unknown.symm.trans found
    · exact rest
  · exact .other unknown

end Fields

/-! ## Lists -/

section Lists
variable {turn : Turn} {parts parts' : Parts} {s r : Bytes} {whole : Whole}
  {fields : List (Field Parts)}

theorem Schema.takesItems_of_readItems
    (values : ∀ field ∈ fields, ∀ parts, (field.reader parts).OfValues)
    (h : schema.readItems turn parts fields s = .ok (whole, r)) :
    ∃ vs p parts', ItemsText turn vs p ∧ s = p ++ r ∧ Field.TakesItems parts fields vs parts' ∧
      schema.build parts' = .ok whole := by
  induction fields generalizing turn parts s with
  | nil =>
    simp only [Schema.readItems] at h
    split at h
    · contradiction
    · rename_i close
      obtain ⟨w, blank, rfl⟩ := endItems_iff.mp close
      split at h
      · rename_i build
        cases h
        exact ⟨[], _, parts, .close blank, by simp, .nil, build⟩
      · simp [fail] at h
  | cons field fields ih =>
    simp only [Schema.readItems] at h
    split at h
    · contradiction
    · rename_i close
      rcases nextItem_cases close with ⟨_, w, blank, rfl⟩ | ⟨more, _⟩
      · split at h
        · rename_i build
          cases h
          exact ⟨[], _, parts, .close blank, by simp, .nil, build⟩
        · simp [fail] at h
      · contradiction
    · rename_i more
      rcases nextItem_cases more with ⟨close, _⟩ | ⟨_, c, w, separates, blank, rfl⟩
      · contradiction
      · split at h
        · contradiction
        · rename_i read
          have own := values field List.mem_cons_self parts
          obtain ⟨w', v, blank', value, rfl, alone⟩ := own.value read
          have others := fun field member => values field (List.mem_cons_of_mem _ member)
          obtain ⟨vs, p, last, text, rfl, takes, build⟩ := ih others h
          refine ⟨v :: vs, _, last, .item separates (blank.append blank') value text, ?_,
            .cons alone takes, build⟩
          simp

theorem Schema.readItems_of_takesItems
    (values : ∀ field ∈ fields, ∀ parts, (field.reader parts).OfValues) {vs : List Bytes}
    {p : Bytes} (text : ItemsText turn vs p) (takes : Field.TakesItems parts fields vs parts')
    (build : schema.build parts' = .ok whole) (t : Bytes) :
    schema.readItems turn parts fields (p ++ t) = .ok (whole, t) := by
  induction takes generalizing turn p with
  | @nil fields parts =>
    cases text with
    | @close turn w blank =>
      have ends : endItems (w ++ 0x5D :: t) = .ok t := endItems_iff.mpr ⟨w, blank, rfl⟩
      cases fields <;> simp [Schema.readItems, ends, nextItem_close blank, build]
  | @cons field fields v vs parts parts' parts'' read takes ih =>
    cases text with
    | @item turn _ c w _ p separates blank value rest =>
      have more := nextItem_value separates blank value (p ++ t)
      have own := values field List.mem_cons_self parts
      have read := own.run blank_nil value read (rest.spells.ended t)
      have others := fun field member => values field (List.mem_cons_of_mem _ member)
      rw [List.nil_append] at read
      simp only [List.append_assoc, Schema.readItems, more, read]
      exact ih others rest build

end Lists

theorem Field.takesItems_nil {fields : List (Field Parts)} {parts parts' : Parts} :
    Field.TakesItems parts fields [] parts' ↔ parts' = parts := by
  constructor
  · rintro ⟨⟩
    rfl
  · rintro rfl
    exact .nil

theorem Field.not_takesItems {parts parts' : Parts} {v : Bytes} {vs : List Bytes} :
    ¬ Field.TakesItems parts [] (v :: vs) parts' := by
  rintro ⟨⟩

theorem Field.takesItems_cons {α : Type} {name : String} {get : Parts → Option α}
    {set : Parts → α → Parts} {reader : Reader α} {fields : List (Field Parts)}
    {parts parts' : Parts} {v : Bytes} {vs : List Bytes} :
    Field.TakesItems parts (.of name get set reader :: fields) (v :: vs) parts' ↔
      ∃ a, reader.run v = .ok (a, []) ∧ Field.TakesItems (set parts a) fields vs parts' := by
  constructor
  · rintro (_ | ⟨read, rest⟩)
    cases alone : reader.run v with
    | error f => simp [Field.of, alone, Except.map] at read
    | ok result =>
      obtain ⟨a, r⟩ := result
      simp only [Field.of, alone] at read
      cases read
      exact ⟨a, rfl, rest⟩
  · rintro ⟨a, read, rest⟩
    exact .cons (Field.run_of read) rest

/-! ## Texts -/

theorem whole_iff {α : Type} {read : Bytes → Except Fault (α × Bytes)} {s : Bytes} {a : α} :
    whole read s = .ok a ↔ ∃ r, read s = .ok (a, r) ∧ Blank r := by
  unfold Json.whole
  cases read s with
  | error f => simp
  | ok found =>
    obtain ⟨b, r⟩ := found
    simp only [blank_iff_skipSpace]
    cases space : skipSpace r with
    | nil => simp [space]
    | cons c r' => simp [fail, space]

/-- The texts that a schema accepts, and what it makes of them. -/
theorem Schema.ofText_iff (values : schema.OfValues) {message : Bytes} {whole : Whole} :
    schema.ofText message = .ok whole ↔ ∃ text parts, IsJson message text ∧
      schema.build parts = .ok whole ∧
      ((∃ ms, ObjectText ms text ∧ schema.Takes schema.blank ms parts) ∨
        ∃ vs, ListText vs text ∧ Field.TakesItems schema.blank schema.fields vs parts) := by
  rw [Schema.ofText, whole_iff]
  constructor
  · rintro ⟨r, read, after⟩
    simp only [Schema.read] at read
    split at read
    · simp [fail] at read
    · rename_i space
      obtain ⟨w, before, rfl, _⟩ := skipSpace_eq_cons_iff.mp space
      split at read
      · rename_i bracket
        subst bracket
        obtain ⟨vs, p, parts, text, rfl, takes, build⟩ := takesItems_of_readItems values read
        have list : ListText vs (0x5B :: p) := ⟨p, text, rfl⟩
        exact ⟨_, parts, ⟨w, r, before, list.spells, after, rfl⟩, build, .inr ⟨vs, list, takes⟩⟩
      · split at read
        · rename_i bracket
          subst bracket
          obtain ⟨ms, p, parts, text, rfl, takes, build⟩ := takes_of_readMembers values read
          have object : ObjectText ms (0x7B :: p) := ⟨p, text, rfl⟩
          exact ⟨_, parts, ⟨w, r, before, object.spells, after, rfl⟩, build,
            .inl ⟨ms, object, takes⟩⟩
        · contradiction
  · rintro ⟨text, parts, ⟨w, w', before, _, after, rfl⟩, build, accepted⟩
    refine ⟨w', ?_, after⟩
    rcases accepted with ⟨ms, ⟨p, members, rfl⟩, takes⟩ | ⟨vs, ⟨p, items, rfl⟩, takes⟩
    · have read := readMembers_of_takes values members takes build w'
      simpa [Schema.read, before.skipSpace, skipSpace_of_head (b := 0x7B) rfl] using read
    · have read := readItems_of_takesItems values items takes build w'
      simpa [Schema.read, before.skipSpace, skipSpace_of_head (b := 0x5B) rfl] using read

end Fanout.Json
