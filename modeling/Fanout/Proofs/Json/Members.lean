import Fanout.Proofs.Json.Record

/-! The texts of objects and lists by their members and items, and the readers of what stands in
them: each takes one value, with the blanks before it, and sees nothing of what follows. -/

namespace Fanout.Json
open Text

/-! ## Texts -/

/-- What stands between the parts of a list or an object. -/
inductive Turn.Separates : Turn → Bytes → Prop where
  | first : Turn.first.Separates []
  | later {w : Bytes} : Blank w → Turn.later.Separates (w ++ [0x2C])

/-- Members with their names and the texts of their values, up to the end of their object. -/
inductive MembersText : Turn → List (String × Bytes) → Bytes → Prop where
  | close {turn : Turn} {w : Bytes} : Blank w → MembersText turn [] (w ++ [0x7D])
  | member {turn : Turn} {name : String} {ms : List (String × Bytes)}
      {c w k w' w'' v p : Bytes} : turn.Separates c → Blank w → StringText name.toList k →
      Blank w' → Blank w'' → Spells .value v → MembersText .later ms p →
      MembersText turn ((name, v) :: ms)
        (c ++ (w ++ 0x22 :: (k ++ 0x22 :: (w' ++ 0x3A :: (w'' ++ (v ++ p))))))

/-- Items by their texts, up to the end of their list. -/
inductive ItemsText : Turn → List Bytes → Bytes → Prop where
  | close {turn : Turn} {w : Bytes} : Blank w → ItemsText turn [] (w ++ [0x5D])
  | item {turn : Turn} {vs : List Bytes} {c w v p : Bytes} : turn.Separates c → Blank w →
      Spells .value v → ItemsText .later vs p → ItemsText turn (v :: vs) (c ++ (w ++ (v ++ p)))

/-- The text of an object with these members. -/
def ObjectText (ms : List (String × Bytes)) (text : Bytes) : Prop :=
  ∃ p, MembersText .first ms p ∧ text = 0x7B :: p

/-- The text of a list with these items. -/
def ListText (vs : List Bytes) (text : Bytes) : Prop :=
  ∃ p, ItemsText .first vs p ∧ text = 0x5B :: p

/-- A message that is one value, with nothing but blanks around its text. -/
def IsJson (message text : Bytes) : Prop :=
  ∃ w w', Blank w ∧ Spells .value text ∧ Blank w' ∧ message = w ++ (text ++ w')

theorem Spells.rest {bracket : Bracket} {turn : Turn} {c p q : Bytes} (separates : turn.Separates c)
    (entry : Spells (.entry bracket) p) (rest : Spells (.rest bracket .later) q) :
    Spells (.rest bracket turn) (c ++ (p ++ q)) := by
  cases separates with
  | first => simpa using Spells.first entry rest
  | later blank => simpa using Spells.later blank entry rest

theorem MembersText.spells {turn : Turn} {ms : List (String × Bytes)} {p : Bytes}
    (text : MembersText turn ms p) : Spells (.rest .object turn) p := by
  induction text with
  | close blank => exact @Spells.close .object _ _ blank
  | member separates before key between after value _ ih =>
    have entry := Spells.member before key.skipped between after value
    simpa using entry.rest separates ih

theorem ItemsText.spells {turn : Turn} {vs : List Bytes} {p : Bytes}
    (text : ItemsText turn vs p) : Spells (.rest .list turn) p := by
  induction text with
  | close blank => exact @Spells.close .list _ _ blank
  | item separates before value _ ih =>
    have entry := Spells.item before value
    simpa using entry.rest separates ih

theorem ObjectText.spells {ms : List (String × Bytes)} {text : Bytes} (object : ObjectText ms text) :
    Spells .value text := by
  obtain ⟨p, members, rfl⟩ := object
  exact @Spells.bracketed .object p members.spells

theorem ListText.spells {vs : List Bytes} {text : Bytes} (list : ListText vs text) :
    Spells .value text := by
  obtain ⟨p, items, rfl⟩ := list
  exact @Spells.bracketed .list p items.spells

/-! ## Punctuation -/

theorem skipSpace_eq_cons_iff {s r : Bytes} {b : UInt8} :
    skipSpace s = b :: r ↔ ∃ w, Blank w ∧ s = w ++ b :: r ∧ isSpace b = false := by
  constructor
  · intro space
    obtain ⟨w, blank, same⟩ := blank_of_skipSpace_eq space
    exact ⟨w, blank, same, isSpace_head space⟩
  · rintro ⟨w, blank, rfl, notBlank⟩
    rw [blank.skipSpace, skipSpace_of_head notBlank]

theorem skipColon_iff {s r : Bytes} :
    skipColon s = .ok r ↔ ∃ w, Blank w ∧ s = w ++ 0x3A :: r := by
  constructor
  · intro h
    unfold skipColon at h
    split at h
    · simp [fail] at h
    · rename_i space
      obtain ⟨w, blank, rfl, _⟩ := skipSpace_eq_cons_iff.mp space
      split at h
      · rename_i colon
        cases h
        exact ⟨w, blank, by rw [colon]⟩
      · simp [fail] at h
  · rintro ⟨w, blank, rfl⟩
    simp [skipColon, blank.skipSpace, skipSpace_of_head (b := 0x3A) rfl]

theorem memberName_iff {s r : Bytes} {key : Option String} : memberName s = .ok (key, r) ↔
    ∃ name k, key = some name ∧ StringText name.toList k ∧ s = 0x22 :: (k ++ 0x22 :: r) := by
  constructor
  · intro h
    unfold memberName at h
    split at h
    · simp [fail] at h
    · rename_i b t
      split at h
      · rename_i quote
        subst quote
        cases read : readString t with
        | error f => simp [read, Except.map] at h
        | ok found =>
          obtain ⟨name, u⟩ := found
          rw [read] at h
          cases h
          obtain ⟨k, text, rfl⟩ := readString_iff.mp read
          exact ⟨name, k, rfl, text, rfl⟩
      · split at h <;> simp [fail] at h
  · rintro ⟨name, k, rfl, text, rfl⟩
    have read : readString (k ++ 0x22 :: r) = .ok (name, r) :=
      readString_iff.mpr ⟨k, text, rfl⟩
    simp [memberName, read, Except.map]

/-- The end of an object, or the name of its next member. -/
theorem nextMember_iff {turn : Turn} {s r : Bytes} {key : Option String} :
    nextMember turn s = .ok (key, r) ↔
      (key = none ∧ ∃ w, Blank w ∧ s = w ++ 0x7D :: r) ∨
      ∃ name c w k, key = some name ∧ turn.Separates c ∧ Blank w ∧ StringText name.toList k ∧
        s = c ++ (w ++ 0x22 :: (k ++ 0x22 :: r)) := by
  constructor
  · intro h
    unfold nextMember at h
    split at h
    · simp [fail] at h
    · rename_i b t space
      obtain ⟨w, blank, rfl, _⟩ := skipSpace_eq_cons_iff.mp space
      split at h
      · rename_i close
        cases h
        exact .inl ⟨rfl, w, blank, by rw [close]⟩
      · split at h
        · obtain ⟨name, k, rfl, text, same⟩ := memberName_iff.mp h
          exact .inr ⟨name, [], w, k, rfl, .first, blank, text, by rw [same]; rfl⟩
        · split at h
          · rename_i comma
            obtain ⟨name, k, rfl, text, same⟩ := memberName_iff.mp h
            obtain ⟨w', blank', rfl⟩ := blank_of_skipSpace_eq same
            exact .inr ⟨name, _, w', k, rfl, .later blank, blank', text, by rw [comma]; simp⟩
          · simp [fail] at h
  · rintro (⟨rfl, w, blank, rfl⟩ | ⟨name, c, w, k, rfl, separates, blank, text, rfl⟩)
    · simp [nextMember, blank.skipSpace, skipSpace_of_head (b := 0x7D) rfl]
    · have member : memberName (0x22 :: (k ++ 0x22 :: r)) = .ok (some name, r) :=
        memberName_iff.mpr ⟨name, k, rfl, text, rfl⟩
      have quote (t : Bytes) : skipSpace (0x22 :: t) = 0x22 :: t := skipSpace_of_head rfl t
      cases separates with
      | first => simp [nextMember, blank.skipSpace, quote, member]
      | later comma =>
        simp [nextMember, comma.skipSpace, blank.skipSpace, skipSpace_of_head (b := 0x2C) rfl,
          quote, member]

theorem endItems_iff {s r : Bytes} :
    endItems s = .ok r ↔ ∃ w, Blank w ∧ s = w ++ 0x5D :: r := by
  constructor
  · intro h
    unfold endItems at h
    split at h
    · simp [fail] at h
    · rename_i space
      obtain ⟨w, blank, rfl, _⟩ := skipSpace_eq_cons_iff.mp space
      split at h
      · rename_i close
        cases h
        exact ⟨w, blank, by rw [close]⟩
      · split at h
        · split at h <;> simp [fail] at h
        · simp [fail] at h
  · rintro ⟨w, blank, rfl⟩
    simp [endItems, blank.skipSpace, skipSpace_of_head (b := 0x5D) rfl]

/-- The end of a list, or a further item in it. -/
theorem nextItem_cases {turn : Turn} {s r : Bytes} {more : Bool}
    (h : nextItem turn s = .ok (more, r)) :
    (more = false ∧ ∃ w, Blank w ∧ s = w ++ 0x5D :: r) ∨
      (more = true ∧ ∃ c w, turn.Separates c ∧ Blank w ∧ s = c ++ (w ++ r)) := by
  unfold nextItem at h
  split at h
  · simp [fail] at h
  · rename_i b t space
    obtain ⟨w, blank, rfl, _⟩ := skipSpace_eq_cons_iff.mp space
    split at h
    · rename_i close
      cases h
      exact .inl ⟨rfl, w, blank, by rw [close]⟩
    · split at h
      · cases h
        exact .inr ⟨rfl, [], w, .first, blank, rfl⟩
      · split at h
        · rename_i comma
          split at h
          · simp [fail] at h
          · rename_i space'
            obtain ⟨w', blank', rfl, _⟩ := skipSpace_eq_cons_iff.mp space'
            split at h
            · simp [fail] at h
            · cases h
              exact .inr ⟨rfl, _, w', .later blank, blank', by rw [comma]; simp⟩
        · simp [fail] at h

theorem nextItem_close {turn : Turn} {w : Bytes} (blank : Blank w) (t : Bytes) :
    nextItem turn (w ++ 0x5D :: t) = .ok (false, t) := by
  simp [nextItem, blank.skipSpace, skipSpace_of_head (b := 0x5D) rfl]

theorem nextItem_value {turn : Turn} {c w v : Bytes} (separates : turn.Separates c)
    (blank : Blank w) (value : Spells .value v) (t : Bytes) :
    nextItem turn (c ++ (w ++ (v ++ t))) = .ok (true, v ++ t) := by
  obtain ⟨b, r, rfl, notBlank, notClose⟩ := value.head
  cases separates with
  | first => simp [nextItem, blank.skipSpace, skipSpace_of_head notBlank, notClose]
  | later comma =>
    simp [nextItem, comma.skipSpace, blank.skipSpace, skipSpace_of_head (b := 0x2C) rfl,
      skipSpace_of_head notBlank, notClose]

/-! ## Readers of values -/

/-- A text that is a string with its quotes. -/
def Quotes (t : String) (v : Bytes) : Prop :=
  ∃ p, StringText t.toList p ∧ v = 0x22 :: (p ++ [0x22])

theorem Quotes.spells {t : String} {v : Bytes} (quotes : Quotes t v) : Spells .value v := by
  obtain ⟨p, text, rfl⟩ := quotes
  exact .string text.skipped

/-- A reader that reads values and nothing else: with the blanks before them, and whatever stands
behind them. -/
structure Reader.OfValues {α : Type} (reader : Reader α) : Prop where
  value : ∀ {s r a}, reader.run s = .ok (a, r) → ∃ w v, Blank w ∧ Spells .value v ∧
    s = w ++ (v ++ r) ∧ reader.run v = .ok (a, [])
  run : ∀ {w v t a}, Blank w → Spells .value v → reader.run v = .ok (a, []) → Ended t →
    reader.run (w ++ (v ++ t)) = .ok (a, t)

theorem Reader.text_iff {s r : Bytes} {t : String} :
    Reader.text.run s = .ok (t, r) ↔ ∃ w v, Blank w ∧ Quotes t v ∧ s = w ++ (v ++ r) := by
  constructor
  · intro h
    simp only [Reader.text, Reader.readText] at h
    split at h
    · simp [fail] at h
    · rename_i space
      obtain ⟨w, blank, rfl, _⟩ := skipSpace_eq_cons_iff.mp space
      split at h
      · rename_i quote
        obtain ⟨p, text, rfl⟩ := readString_iff.mp h
        exact ⟨w, _, blank, ⟨p, text, rfl⟩, by rw [quote]; simp⟩
      · contradiction
  · rintro ⟨w, v, blank, ⟨p, text, rfl⟩, rfl⟩
    have read : readString (p ++ 0x22 :: r) = .ok (t, r) := readString_iff.mpr ⟨p, text, rfl⟩
    simp [Reader.text, Reader.readText, blank.skipSpace, skipSpace_of_head (b := 0x22) rfl, read]

/-- A value that follows blanks is the whole of a value only if there are none. -/
theorem Blank.eq_nil {w v u : Bytes} (blank : Blank w) (value : Spells .value u)
    (same : u = w ++ v) : w = [] := by
  cases w with
  | nil => rfl
  | cons b w =>
    obtain ⟨c, r, rfl, notBlank, _⟩ := value.head
    cases same
    rw [isSpace_iff.mpr (blank b List.mem_cons_self)] at notBlank
    contradiction

theorem Reader.text_value_iff {v : Bytes} {t : String} (value : Spells .value v) :
    Reader.text.run v = .ok (t, []) ↔ Quotes t v := by
  constructor
  · intro h
    obtain ⟨w, u, blank, quotes, same⟩ := text_iff.mp h
    rw [List.append_nil] at same
    cases blank.eq_nil value same
    exact same ▸ quotes
  · intro quotes
    exact text_iff.mpr ⟨[], v, blank_nil, quotes, by simp⟩

theorem Reader.ofValues_text : Reader.text.OfValues where
  value h := by
    obtain ⟨w, v, blank, quotes, same⟩ := text_iff.mp h
    exact ⟨w, v, blank, quotes.spells, same, (text_value_iff quotes.spells).mpr quotes⟩
  run blank value read _ := text_iff.mpr ⟨_, _, blank, (text_value_iff value).mp read, rfl⟩

theorem Reader.skipped_value {v : Bytes} (value : Spells .value v) :
    Reader.skipped.run v = .ok ((), []) := by
  have skip := skipValue_of_spells blank_nil value ended_nil
  rw [List.nil_append, List.append_nil] at skip
  simp only [Reader.skipped, skip, Except.map]

theorem Reader.ofValues_skipped : Reader.skipped.OfValues where
  value {s r a} h := by
    simp only [Reader.skipped, Except.map] at h
    split at h
    · contradiction
    · rename_i skip
      cases h
      obtain ⟨w, v, blank, value, same⟩ := spells_of_skipValue skip
      exact ⟨w, v, blank, value, same, skipped_value value⟩
  run blank value _ ended := by
    simp only [Reader.skipped, skipValue_of_spells blank value ended, Except.map]

theorem Reader.raw_run {w v t : Bytes} (blank : Blank w) (value : Spells .value v)
    (text : Utf8.IsText v) (ended : Ended t) : Reader.raw.run (w ++ (v ++ t)) = .ok (v, t) := by
  have read := (isValue_iff.mpr ⟨value, text⟩).readRaw ended
  have same : Reader.readRaw (w ++ (v ++ t)) = Reader.readRaw (v ++ t) := by
    simp only [Reader.readRaw, blank.skipSpace]
  exact same.trans read

theorem Reader.raw_spec {s r raw : Bytes} (h : Reader.raw.run s = .ok (raw, r)) :
    ∃ w, Blank w ∧ Spells .value raw ∧ Utf8.IsText raw ∧ s = w ++ (raw ++ r) := by
  obtain ⟨value, text⟩ := isValue_iff.mp (isValue_of_readRaw h)
  simp only [Reader.raw, Reader.readRaw] at h
  split at h
  · contradiction
  · rename_i t skipped
    obtain ⟨w, blank, same⟩ := blank_of_skipSpace s
    obtain ⟨w', v, blank', value', start⟩ := spells_of_skipValue skipped
    have space : skipSpace s = v ++ t := by
      rw [← skipSpace_skipSpace, start, blank'.skipSpace, value'.skipSpace]
    have taken : (v ++ t).take ((v ++ t).length - t.length) = v := by simp
    rw [space] at same
    simp only [space, taken] at h
    split at h
    · cases h
      exact ⟨w, blank, value, text, same⟩
    · simp [fail] at h

theorem Reader.ofValues_raw : Reader.raw.OfValues where
  value h := by
    obtain ⟨w, blank, value, text, same⟩ := raw_spec h
    have read := raw_run blank_nil value text ended_nil
    rw [List.nil_append, List.append_nil] at read
    exact ⟨w, _, blank, value, same, read⟩
  run {w v t a} blank value read ended := by
    obtain ⟨w', blank', _, text, same⟩ := raw_spec read
    rw [List.append_nil] at same
    cases blank'.eq_nil value same
    subst same
    exact raw_run blank value text ended

theorem spells_null : Spells .value nullText := .word (by simp [words])

theorem Reader.optional_value {α : Type} {reader : Reader α} {v : Bytes}
    (value : Spells .value v) : reader.optional.run v =
      if v = nullText then .ok (none, []) else (reader.run v).map fun (a, r) => (some a, r) := by
  have read := @readOptional_value α reader [] v [] blank_nil value
  rw [List.nil_append, List.append_nil] at read
  exact read

theorem Reader.ofValues_optional {α : Type} {reader : Reader α} (values : reader.OfValues) :
    reader.optional.OfValues where
  value {s r a} h := by
    simp only [Reader.optional, readOptional] at h
    split at h
    · rename_i t space
      obtain ⟨w, blank, rfl, _⟩ := skipSpace_eq_cons_iff.mp space
      cases word : skipWord [0x75, 0x6C, 0x6C] t with
      | error f => simp [word, Except.map] at h
      | ok u =>
        rw [word] at h
        cases h
        obtain rfl := skipWord_spec word
        exact ⟨w, nullText, blank, spells_null, rfl, rfl⟩
    · rename_i other
      cases read : reader.run s with
      | error f => simp [read, Except.map] at h
      | ok found =>
        obtain ⟨b, u⟩ := found
        rw [read] at h
        cases h
        obtain ⟨w, v, blank, value, rfl, alone⟩ := values.value read
        have notNull : v ≠ nullText := by
          rintro rfl
          exact other _ (by rw [blank.skipSpace, value.skipSpace]; rfl)
        refine ⟨w, v, blank, value, rfl, ?_⟩
        rw [optional_value value, if_neg notNull, alone]
        rfl
  run {w v t a} blank value read ended := by
    rw [optional_value value] at read
    refine (readOptional_value blank value).trans ?_
    split at read
    · rename_i null
      cases read
      rw [if_pos null]
    · rename_i notNull
      rw [if_neg notNull]
      cases alone : reader.run v with
      | error f => simp [alone, Except.map] at read
      | ok found =>
        obtain ⟨b, u⟩ := found
        rw [alone] at read
        cases read
        rw [values.run blank value alone ended]
        rfl

theorem Field.ofValues_of {Parts α : Type} {name : String} {get : Parts → Option α}
    {set : Parts → α → Parts} {reader : Reader α} (values : reader.OfValues) (parts : Parts) :
    ((Field.of name get set reader).reader parts).OfValues where
  value {s r a} h := by
    simp only [Field.of, Except.map] at h
    split at h
    · contradiction
    · rename_i read
      cases h
      obtain ⟨w, v, blank, value, same, alone⟩ := values.value read
      exact ⟨w, v, blank, value, same, Field.run_of alone⟩
  run {w v t a} blank value read ended := by
    cases alone : reader.run v with
    | error f => simp [Field.of, alone, Except.map] at read
    | ok found =>
      obtain ⟨b, u⟩ := found
      simp only [Field.of, alone] at read
      cases read
      exact Field.run_of (values.run blank value alone ended)

end Fanout.Json
