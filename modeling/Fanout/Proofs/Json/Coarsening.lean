import Fanout.Proofs.Json.Reading
import Fanout.Proofs.Json.Schema
import Fanout.Proofs.Json.Stages

/-! Readers that keep less. Two readers of the same texts are compared by what the coarser one keeps
of the other's result, and by the reasons for which the finer one may refuse what the coarser one
takes. Fields and records inherit the comparison, and the reasons then belong to one member or one
item. -/

namespace Fanout.Json
open Text

/-- The second reader takes what the first one does and keeps an image of it. The first one may
refuse what the second one takes of `s` up to `r`, for these reasons. -/
structure Reader.Coarsens {α β : Type} (fine : Reader α) (coarse : Reader β) (image : α → β)
    (reason : Fault → Bytes → Bytes → Prop) : Prop where
  read : ∀ {s r a}, fine.run s = .ok (a, r) → coarse.run s = .ok (image a, r)
  refused : ∀ {s r b fault}, EndsText s → coarse.run s = .ok (b, r) →
    fine.run s = .error fault → reason fault s r
  blank : ∀ {w s}, Blank w → fine.run (w ++ s) = fine.run s

structure Field.Coarsens {Parts Parts' : Type} (image : Parts → Parts')
    (reason : String → Fault → Bytes → Bytes → Prop) (fine : Field Parts) (coarse : Field Parts') :
    Prop where
  name : coarse.name = fine.name
  isSet : ∀ parts, coarse.isSet (image parts) = fine.isSet parts
  reader : ∀ parts, (fine.reader parts).Coarsens (coarse.reader (image parts)) image
    (reason fine.name)

structure Schema.Coarsens {Parts Parts' Whole Whole' : Type} (fine : Schema Parts Whole)
    (coarse : Schema Parts' Whole') (image : Parts → Parts') (result : Whole → Whole')
    (reason : String → Fault → Bytes → Bytes → Prop) : Prop where
  fields : List.Forall₂ (Field.Coarsens image reason) fine.fields coarse.fields
  start : coarse.blank = image fine.blank
  build : ∀ parts, coarse.build (image parts) = (fine.build parts).map result

/-! ## Readers -/

theorem Reader.Coarsens.imp {α β : Type} {fine : Reader α} {coarse : Reader β} {image : α → β}
    {reason reason' : Fault → Bytes → Bytes → Prop} (coarsens : fine.Coarsens coarse image reason)
    (weaker : ∀ {fault s r}, reason fault s r → reason' fault s r) :
    fine.Coarsens coarse image reason' where
  read := coarsens.read
  refused text taken stopped := weaker (coarsens.refused text taken stopped)
  blank := coarsens.blank

theorem Reader.coarsens_text {reason : Fault → Bytes → Bytes → Prop} :
    Reader.text.Coarsens Reader.text id reason where
  read h := h
  refused _ taken refused := by cases taken.symm.trans refused
  blank before := by simp only [Reader.text, Reader.readText, before.skipSpace]

theorem Reader.coarsens_value {room : Nat} :
    (Reader.value room).Coarsens Reader.skipped (fun _ => ()) (·.Excused .value) where
  read h := by
    have skip : skipValue _ = _ := skipDue_of_skips (skips_of_readStage h)
    simp only [Reader.skipped, skip, Except.map]
  refused {s r b fault} text taken refused := by
    have skip : skipValue s = .ok r := by
      simp only [Reader.skipped, Except.map] at taken
      split at taken
      · contradiction
      · cases taken
        assumption
    exact @readStage_of_skips s r fault room .value [] text (skips_of_skipDue skip) refused
  blank {w s} before := by
    have same := @readStage_skipSpace room [] (w ++ s)
    rw [before.skipSpace, readStage_skipSpace] at same
    exact same.symm

theorem Reader.optional_null {α : Type} {reader : Reader α} {s r : Bytes}
    (space : skipSpace s = 0x6E :: r) :
    reader.optional.run s = (skipWord [0x75, 0x6C, 0x6C] r).map (none, ·) := by
  simp only [Reader.optional, readOptional, space]

theorem Reader.optional_other {α : Type} {reader : Reader α} {s : Bytes}
    (other : ∀ r, skipSpace s ≠ 0x6E :: r) :
    reader.optional.run s = (reader.run s).map fun (a, r) => (some a, r) := by
  simp only [Reader.optional, readOptional]

/-- Whether `null` stands in the place of a value. -/
theorem null_or_other (s : Bytes) :
    (∃ r, skipSpace s = 0x6E :: r) ∨ ∀ r, skipSpace s ≠ 0x6E :: r := by
  rcases Classical.em (∃ r, skipSpace s = 0x6E :: r) with null | other
  · exact .inl null
  · exact .inr fun r space => other ⟨r, space⟩

theorem Reader.Coarsens.optional {α β : Type} {fine : Reader α} {coarse : Reader β}
    {image : α → β} {reason : Fault → Bytes → Bytes → Prop}
    (coarsens : fine.Coarsens coarse image reason) :
    fine.optional.Coarsens coarse.optional (Option.map image) reason where
  read {s r a} h := by
    rcases null_or_other s with ⟨u, null⟩ | other
    · rw [optional_null null] at h ⊢
      cases word : skipWord [0x75, 0x6C, 0x6C] u with
      | error f => simp [word, Except.map] at h
      | ok v =>
        rw [word] at h
        cases h
        rfl
    · rw [optional_other other] at h ⊢
      cases read : fine.run s with
      | error f => simp [read, Except.map] at h
      | ok found =>
        rw [read] at h
        cases h
        rw [coarsens.read read]
        rfl
  refused {s r b fault} text taken refused := by
    rcases null_or_other s with ⟨u, null⟩ | other
    · rw [optional_null null] at taken refused
      cases word : skipWord [0x75, 0x6C, 0x6C] u with
      | error f => simp [word, Except.map] at taken
      | ok v => simp [word, Except.map] at refused
    · rw [optional_other other] at taken refused
      cases read : coarse.run s with
      | error f => simp [read, Except.map] at taken
      | ok found =>
        obtain ⟨c, u⟩ := found
        rw [read] at taken
        cases taken
        cases stopped : fine.run s with
        | ok found => simp [stopped, Except.map] at refused
        | error f =>
          rw [stopped] at refused
          cases refused
          exact coarsens.refused text read stopped
  blank {w s} before := by
    rcases null_or_other s with ⟨u, null⟩ | other
    · rw [optional_null null, optional_null ((before.skipSpace s).trans null)]
    · have other' : ∀ r, skipSpace (w ++ s) ≠ 0x6E :: r := by rwa [before.skipSpace]
      rw [optional_other other, optional_other other', coarsens.blank before]

/-! ## Fields -/

section Fields
variable {Parts Parts' : Type} {image : Parts → Parts'}
  {reason : String → Fault → Bytes → Bytes → Prop}

theorem Field.coarsens_of {α β : Type} {name : String} {get : Parts → Option α}
    {get' : Parts' → Option β} {set : Parts → α → Parts} {set' : Parts' → β → Parts'}
    {fine : Reader α} {coarse : Reader β} {part : α → β}
    (coarsens : fine.Coarsens coarse part (reason name))
    (gets : ∀ parts, get' (image parts) = (get parts).map part)
    (sets : ∀ parts a, image (set parts a) = set' (image parts) (part a)) :
    Field.Coarsens image reason (.of name get set fine) (.of name get' set' coarse) where
  name := rfl
  isSet parts := by simp only [Field.of, gets, Option.isSome_map]
  reader parts :=
    { read := fun {s r a} h => by
        cases read : fine.run s with
        | error f => simp [Field.of, read, Except.map] at h
        | ok found =>
          obtain ⟨b, u⟩ := found
          simp only [Field.of, read, Except.map] at h
          cases h
          exact (Field.run_of (coarsens.read read)).trans (by rw [sets])
      refused := fun {s r b fault} text taken refused => by
        cases read : coarse.run s with
        | error f => simp [Field.of, read, Except.map] at taken
        | ok found =>
          obtain ⟨c, u⟩ := found
          simp only [Field.of, read, Except.map] at taken
          cases taken
          cases stopped : fine.run s with
          | ok found => simp [Field.of, stopped, Except.map] at refused
          | error f =>
            simp only [Field.of, stopped, Except.map] at refused
            cases refused
            exact coarsens.refused text read stopped
      blank := fun before => by simp only [Field.of, coarsens.blank before] }

/-- Both records find their field for a name, or neither does. -/
theorem find?_coarsens {fields : List (Field Parts)} {fields' : List (Field Parts')}
    (coarsens : List.Forall₂ (Field.Coarsens image reason) fields fields') (name : String) :
    (fields.find? (·.name = name) = none ∧ fields'.find? (·.name = name) = none) ∨
      ∃ fine coarse, fields.find? (·.name = name) = some fine ∧
        fields'.find? (·.name = name) = some coarse ∧ fine.Coarsens image reason coarse := by
  induction coarsens with
  | nil => exact .inl ⟨rfl, rfl⟩
  | @cons fine coarse fields fields' head _ ih =>
    simp only [List.find?_cons, head.name]
    by_cases same : fine.name = name
    · exact .inr ⟨fine, coarse, by simp [same], by simp [same], head⟩
    · simpa [same] using ih

end Fields

/-! ## Records -/

section Records
variable {Parts Parts' Whole Whole' : Type} {fine : Schema Parts Whole}
  {coarse : Schema Parts' Whole'} {image : Parts → Parts'} {result : Whole → Whole'}
  {reason : String → Fault → Bytes → Bytes → Prop}

namespace Schema.Coarsens
variable {turn : Turn} {parts : Parts} {s r t : Bytes} {whole : Whole} {fault : Fault}

theorem build_ok (coarsens : fine.Coarsens coarse image result reason)
    (build : fine.build parts = .ok whole) : coarse.build (image parts) = .ok (result whole) := by
  rw [coarsens.build, build]
  rfl

theorem exists_build (coarsens : fine.Coarsens coarse image result reason) {whole : Whole'}
    (build : coarse.build (image parts) = .ok whole) : ∃ whole, fine.build parts = .ok whole := by
  rw [coarsens.build] at build
  cases found : fine.build parts with
  | error name => simp [found, Except.map] at build
  | ok whole => exact ⟨whole, rfl⟩

theorem readMembers (coarsens : fine.Coarsens coarse image result reason)
    (h : fine.readMembers turn parts s = .ok (whole, r)) :
    coarse.readMembers turn (image parts) s = .ok (result whole, r) := by
  fun_induction Schema.readMembers fine turn parts s with
  | case2 turn parts s r close whole build =>
    cases h
    exact readMembers_none close (coarsens.build_ok build)
  | case7 turn parts s name u member _ field found unset u' colon _ parts' u'' read _ ih =>
    rcases find?_coarsens coarsens.fields name with ⟨unknown, _⟩ | ⟨_, own, same, found', field⟩
    · cases found.symm.trans unknown
    · cases found.symm.trans same
      have unset : own.isSet (image parts) = false := by
        rw [field.isSet]
        simpa using unset
      have read := (field.reader parts).read read
      exact (readMembers_field member found' unset colon read).trans (ih h)
  | case10 turn parts s name u member _ unknown u' colon _ u'' skip _ ih =>
    rcases find?_coarsens coarsens.fields name with ⟨_, unknown⟩ | ⟨_, _, found, _⟩
    · exact (readMembers_other member unknown colon skip).trans (ih h)
    · cases unknown.symm.trans found
  | _ => simp_all [fail]

theorem readItems (coarsens : fine.Coarsens coarse image result reason)
    {fields : List (Field Parts)} {fields' : List (Field Parts')}
    (same : List.Forall₂ (Field.Coarsens image reason) fields fields')
    (h : fine.readItems turn parts fields s = .ok (whole, r)) :
    coarse.readItems turn (image parts) fields' s = .ok (result whole, r) := by
  induction same generalizing turn parts s with
  | nil =>
    simp only [Schema.readItems] at h ⊢
    cases close : endItems s with
    | error f => simp [close] at h
    | ok u =>
      simp only [close] at h ⊢
      cases build : fine.build parts with
      | error name => simp [build, fail] at h
      | ok made =>
        simp only [build] at h
        cases h
        rw [coarsens.build_ok build]
  | @cons field own fields fields' head _ ih =>
    simp only [Schema.readItems] at h ⊢
    cases more : nextItem turn s with
    | error f => simp [more] at h
    | ok next =>
      obtain ⟨another, u⟩ := next
      cases another with
      | false =>
        simp only [more] at h ⊢
        cases build : fine.build parts with
        | error name => simp [build, fail] at h
        | ok made =>
          simp only [build] at h
          cases h
          rw [coarsens.build_ok build]
      | true =>
        simp only [more] at h ⊢
        cases read : (field.reader parts).run u with
        | error f => simp [read] at h
        | ok found =>
          simp only [read] at h
          simp only [(head.reader parts).read read]
          exact ih h

theorem read (coarsens : fine.Coarsens coarse image result reason)
    (h : fine.read s = .ok (whole, r)) : coarse.read s = .ok (result whole, r) := by
  simp only [Schema.read, coarsens.start] at h ⊢
  cases space : skipSpace s with
  | nil => simp [space, fail] at h
  | cons b u =>
    simp only [space] at h ⊢
    by_cases list : b = 0x5B
    · rw [if_pos list] at h ⊢
      exact coarsens.readItems coarsens.fields h
    by_cases object : b = 0x7B
    · rw [if_neg list, if_pos object] at h ⊢
      exact coarsens.readMembers h
    · simp [list, object] at h

/-- What the finer record takes, the coarser one takes. -/
theorem ofText (coarsens : fine.Coarsens coarse image result reason)
    (h : fine.ofText s = .ok whole) : coarse.ofText s = .ok (result whole) := by
  obtain ⟨r, read, blank⟩ := whole_iff.mp h
  exact whole_iff.mpr ⟨r, coarsens.read read, blank⟩

end Schema.Coarsens

/-! ## Places of values -/

/-- The values of one member between these texts, which the other members are spelled by. -/
def MemberPlace (turn : Turn) (front : List (String × Bytes)) (name : String)
    (back : List (String × Bytes)) (q q' : Bytes) : Prop :=
  ∀ v : Bytes, Spells .value v →
    MembersText turn (front ++ (name, v) :: back) (q ++ (v ++ q'))

def ItemPlace (turn : Turn) (front back : List Bytes) (q q' : Bytes) : Prop :=
  ∀ v : Bytes, Spells .value v → ItemsText turn (front ++ v :: back) (q ++ (v ++ q'))

section Places
variable {turn : Turn} {name : String} {c w k w' w'' v p q q' : Bytes}

theorem memberPlace_here {ms : List (String × Bytes)} (separates : turn.Separates c)
    (before : Blank w) (key : StringText name.toList k) (between : Blank w') (after : Blank w'')
    (rest : MembersText .later ms p) :
    MemberPlace turn [] name ms (c ++ (w ++ 0x22 :: (k ++ 0x22 :: (w' ++ 0x3A :: w'')))) p := by
  intro v value
  simpa using MembersText.member separates before key between after value rest

theorem MemberPlace.later {front back : List (String × Bytes)} {key : String}
    (place : MemberPlace .later front key back q q') (separates : turn.Separates c)
    (before : Blank w) (text : StringText name.toList k) (between : Blank w') (after : Blank w'')
    (value : Spells .value v) : MemberPlace turn ((name, v) :: front) key back
      (c ++ (w ++ 0x22 :: (k ++ 0x22 :: (w' ++ 0x3A :: (w'' ++ (v ++ q)))))) q' := by
  intro other spells
  simpa using MembersText.member separates before text between after value (place other spells)

theorem itemPlace_here {vs : List Bytes} (separates : turn.Separates c) (before : Blank w)
    (rest : ItemsText .later vs p) : ItemPlace turn [] vs (c ++ w) p := by
  intro v value
  simpa using ItemsText.item separates before value rest

theorem ItemPlace.later {front back : List Bytes} (place : ItemPlace .later front back q q')
    (separates : turn.Separates c) (before : Blank w) (value : Spells .value v) :
    ItemPlace turn (v :: front) back (c ++ (w ++ (v ++ q))) q' := by
  intro other spells
  simpa using ItemsText.item separates before value (place other spells)

end Places

/-! ## Refusals -/

/-- One of these members is refused before `t`, for the reasons of its name. -/
def MemberRefused (reason : String → Fault → Bytes → Bytes → Prop) (fault : Fault) (t : Bytes)
    (turn : Turn) (ms : List (String × Bytes)) (p : Bytes) : Prop :=
  ∃ front name v back q q', ms = front ++ (name, v) :: back ∧ p = q ++ (v ++ q') ∧
    Spells .value v ∧ MemberPlace turn front name back q q' ∧
    reason name fault (v ++ (q' ++ t)) (q' ++ t)

/-- One of these items is refused before `t`, for the reasons of the field in its place. -/
def ItemRefused (reason : String → Fault → Bytes → Bytes → Prop) (fault : Fault) (t : Bytes)
    (turn : Turn) (names : List String) (vs : List Bytes) (p : Bytes) : Prop :=
  ∃ front name v back q q', vs = front ++ v :: back ∧ names[front.length]? = some name ∧
    p = q ++ (v ++ q') ∧ Spells .value v ∧ ItemPlace turn front back q q' ∧
    reason name fault (v ++ (q' ++ t)) (q' ++ t)

section Refused
variable {turn : Turn} {name : String} {c w k w' w'' v p t : Bytes} {fault : Fault}

theorem MemberRefused.later {ms : List (String × Bytes)}
    (refused : MemberRefused reason fault t .later ms p) (separates : turn.Separates c)
    (before : Blank w) (key : StringText name.toList k) (between : Blank w') (after : Blank w'')
    (value : Spells .value v) : MemberRefused reason fault t turn ((name, v) :: ms)
      (c ++ (w ++ 0x22 :: (k ++ 0x22 :: (w' ++ 0x3A :: (w'' ++ (v ++ p)))))) := by
  obtain ⟨front, own, u, back, q, q', rfl, rfl, spells, place, because⟩ := refused
  refine ⟨(name, v) :: front, own, u, back, _, q', rfl, ?_, spells,
    place.later separates before key between after value, because⟩
  simp

theorem ItemRefused.later {names : List String} {vs : List Bytes}
    (refused : ItemRefused reason fault t .later names vs p) (separates : turn.Separates c)
    (before : Blank w) (value : Spells .value v) :
    ItemRefused reason fault t turn (name :: names) (v :: vs) (c ++ (w ++ (v ++ p))) := by
  obtain ⟨front, own, u, back, q, q', rfl, found, rfl, spells, place, because⟩ := refused
  refine ⟨v :: front, own, u, back, _, q', rfl, ?_, ?_, spells,
    place.later separates before value, because⟩
  · simpa using found
  · simp

end Refused

namespace Schema.Coarsens
variable {turn : Turn} {parts : Parts} {last : Parts'} {p t : Bytes} {whole : Whole'}
  {fault : Fault}

/-- A field is read where it is not refused, and then it leaves the other one with its image. -/
theorem read_or_refused {field : Field Parts} {own : Field Parts'} {held : Parts'} {v s : Bytes}
    (coarsens : field.Coarsens image reason own) (values : (own.reader (image parts)).OfValues)
    (value : Spells .value v) (ended : Ended s) (text : EndsText (v ++ s))
    (read : (own.reader (image parts)).run v = .ok (held, [])) :
    (∃ found, (field.reader parts).run (v ++ s) = .ok (found, s) ∧ held = image found) ∨
      ∃ fault, (field.reader parts).run (v ++ s) = .error fault ∧
        reason field.name fault (v ++ s) s := by
  have taken := values.run blank_nil value read ended
  rw [List.nil_append] at taken
  cases own : (field.reader parts).run (v ++ s) with
  | error fault => exact .inr ⟨fault, rfl, (coarsens.reader parts).refused text taken own⟩
  | ok found =>
    obtain ⟨made, r⟩ := found
    cases taken.symm.trans ((coarsens.reader parts).read own)
    exact .inl ⟨made, rfl, rfl⟩

/-- Members that the coarser record takes are refused by the finer one for one of them only. -/
theorem memberRefused (coarsens : fine.Coarsens coarse image result reason)
    (values : coarse.OfValues) {ms : List (String × Bytes)} (text : MembersText turn ms p)
    (takes : coarse.Takes (image parts) ms last) (build : coarse.build last = .ok whole)
    (ends : EndsText (p ++ t)) (refused : fine.readMembers turn parts (p ++ t) = .error fault) :
    MemberRefused reason fault t turn ms p := by
  induction text generalizing parts with
  | @close turn w blank =>
    cases takes
    obtain ⟨made, own⟩ := coarsens.exists_build build
    have close : nextMember turn ((w ++ [0x7D]) ++ t) = .ok (none, t) :=
      nextMember_iff.mpr (.inl ⟨rfl, w, blank, by simp⟩)
    cases refused.symm.trans (readMembers_none close own)
  | @member turn name ms c w k w' w'' v p separates before key between after value rest ih =>
    have member : nextMember turn (c ++ (w ++ 0x22 :: (k ++ 0x22 :: (w' ++ 0x3A :: (w'' ++
        (v ++ (p ++ t))))))) = .ok (some name, w' ++ 0x3A :: (w'' ++ (v ++ (p ++ t)))) :=
      nextMember_iff.mpr (.inr ⟨name, c, w, k, rfl, separates, before, key, rfl⟩)
    have colon : skipColon (w' ++ 0x3A :: (w'' ++ (v ++ (p ++ t)))) = .ok (w'' ++ (v ++ (p ++ t))) :=
      skipColon_iff.mpr ⟨w', between, rfl⟩
    have ended : Ended (p ++ t) := rest.spells.ended t
    simp only [List.append_assoc, List.cons_append] at refused ends
    have ends : EndsText (v ++ (p ++ t)) :=
      ends.of_suffix ⟨c ++ (w ++ 0x22 :: (k ++ 0x22 :: (w' ++ 0x3A :: w''))), by simp⟩
    have ends' : EndsText (p ++ t) := ends.of_suffix (List.suffix_append v _)
    cases takes with
    | other unknown takes =>
      have skip := skipValue_of_spells after value ended
      rcases find?_coarsens coarsens.fields name with ⟨unknown, _⟩ | ⟨_, own, _, found, _⟩
      · have refused := (readMembers_other member unknown colon skip).symm.trans refused
        exact (ih takes ends' refused).later separates before key between after value
      · cases unknown.symm.trans found
    | field found unset taken takes =>
      rcases find?_coarsens coarsens.fields name with ⟨_, unknown⟩ | ⟨field, _, own, same, field'⟩
      · cases found.symm.trans unknown
      cases found.symm.trans same
      have clear : field.isSet parts = false := by rwa [← field'.isSet]
      have skipBlank := @(field'.reader parts).blank w'' (v ++ (p ++ t)) after
      rcases read_or_refused field' (ofValues_of_find? values found) value ended ends taken with
        ⟨parts', read, rfl⟩ | ⟨stopped, read, because⟩
      · have step := readMembers_field member own clear colon (skipBlank.trans read)
        have refused := step.symm.trans refused
        exact (ih takes ends' refused).later separates before key between after value
      · have step := readMembers_fault member own clear colon (skipBlank.trans read)
        cases step.symm.trans refused
        have known : field.name = name := by simpa using List.find?_some own
        rw [known] at because
        have place := memberPlace_here separates before key between after rest
        exact ⟨[], name, v, ms, _, p, rfl, by simp, value, place, because⟩

/-- Items that the coarser record takes are refused by the finer one for one of them only. -/
theorem itemRefused (coarsens : fine.Coarsens coarse image result reason)
    {fields : List (Field Parts)} {fields' : List (Field Parts')}
    (same : List.Forall₂ (Field.Coarsens image reason) fields fields')
    (values : ∀ field ∈ fields', ∀ parts, (field.reader parts).OfValues) {vs : List Bytes}
    (text : ItemsText turn vs p) (takes : Field.TakesItems (image parts) fields' vs last)
    (build : coarse.build last = .ok whole) (ends : EndsText (p ++ t))
    (refused : fine.readItems turn parts fields (p ++ t) = .error fault) :
    ItemRefused reason fault t turn (fields.map (·.name)) vs p := by
  induction same generalizing turn parts vs p with
  | nil =>
    cases takes
    cases text with
    | @close turn w blank =>
      obtain ⟨made, own⟩ := coarsens.exists_build build
      have ends : endItems (w ++ 0x5D :: t) = .ok t := endItems_iff.mpr ⟨w, blank, rfl⟩
      simp [Schema.readItems, ends, own] at refused
  | @cons field own fields fields' head _ ih =>
    cases takes with
    | nil =>
      cases text with
      | @close turn w blank =>
        obtain ⟨made, own⟩ := coarsens.exists_build build
        simp [Schema.readItems, nextItem_close blank, own] at refused
    | @cons _ _ v vs _ _ _ taken takes =>
      cases text with
      | @item turn _ c w _ p separates blank value rest =>
        have more := nextItem_value separates blank value (p ++ t)
        have own := values own List.mem_cons_self (image parts)
        have others := fun field member => values field (List.mem_cons_of_mem _ member)
        simp only [List.append_assoc, Schema.readItems, more] at refused ends
        have ends : EndsText (v ++ (p ++ t)) := ends.of_suffix ⟨c ++ w, by simp⟩
        have ends' : EndsText (p ++ t) := ends.of_suffix (List.suffix_append v _)
        rcases read_or_refused head own value (rest.spells.ended t) ends taken with
          ⟨parts', read, rfl⟩ | ⟨stopped, read, because⟩
        · simp only [read] at refused
          exact (ih others rest takes ends' refused).later separates blank value
        · simp only [read] at refused
          cases refused
          have place := itemPlace_here separates blank rest
          exact ⟨[], field.name, v, _, _, p, rfl, rfl, by simp, value, place, because⟩

/-- A text that only the coarser record takes is refused for one member or item of it. -/
theorem refused (coarsens : fine.Coarsens coarse image result reason) (values : coarse.OfValues)
    {d : Bytes} (text : Utf8.IsText d) (taken : coarse.ofText d = .ok whole)
    (refused : fine.ofText d = .error fault) :
    ∃ w p t last, Blank w ∧ Blank t ∧ coarse.build last = .ok whole ∧
      ((∃ ms, d = w ++ 0x7B :: (p ++ t) ∧ coarse.Takes coarse.blank ms last ∧
          MemberRefused reason fault t .first ms p) ∨
        ∃ vs, d = w ++ 0x5B :: (p ++ t) ∧
          Field.TakesItems coarse.blank coarse.fields vs last ∧
          ItemRefused reason fault t .first (fine.fields.map (·.name)) vs p) := by
  have stopped : fine.read d = .error fault := by
    cases read : fine.read d with
    | error f =>
      have own : fine.ofText d = .error f := by simp only [Schema.ofText, Json.whole, read]
      cases own.symm.trans refused
      rfl
    | ok found =>
      -- What follows the record is the same for both.
      obtain ⟨made, r⟩ := found
      obtain ⟨r', read', blank⟩ := whole_iff.mp taken
      cases read'.symm.trans (coarsens.read read)
      have own : fine.ofText d = .ok made := whole_iff.mpr ⟨r, read, blank⟩
      cases own.symm.trans refused
  obtain ⟨_, last, ⟨w, t, before, _, after, rfl⟩, build, accepted⟩ :=
    (Schema.ofText_iff values).mp taken
  rcases accepted with ⟨ms, ⟨p, members, rfl⟩, takes⟩ | ⟨vs, ⟨p, items, rfl⟩, takes⟩
  · refine ⟨w, p, t, last, before, after, build, .inl ⟨ms, rfl, takes, ?_⟩⟩
    have ends : EndsText (p ++ t) := ⟨w ++ [0x7B], by simpa using text⟩
    rw [coarsens.start] at takes
    refine coarsens.memberRefused values members takes build ends ?_
    simpa [Schema.read, before.skipSpace, skipSpace_of_head (b := 0x7B) rfl] using stopped
  · refine ⟨w, p, t, last, before, after, build, .inr ⟨vs, rfl, takes, ?_⟩⟩
    have ends : EndsText (p ++ t) := ⟨w ++ [0x5B], by simpa using text⟩
    rw [coarsens.start] at takes
    refine coarsens.itemRefused coarsens.fields values items takes build ends ?_
    simpa [Schema.read, before.skipSpace, skipSpace_of_head (b := 0x5B) rfl] using stopped

end Schema.Coarsens
end Records

end Fanout.Json
