import Fanout.Proofs.Json.Grammar

/-! Records are read back member by member. What a member's reader gives back is all that a record
needs to know of it; the text of a value is returned as it stands, and a text that was returned once
is a value for good. -/

namespace Fanout.Json
open Text

/-! ## Values as they stand -/

theorem IsValue.readRaw_of_skipValue {v t : Bytes} (value : IsValue v)
    (skipped : Json.skipValue (v ++ t) = .ok t) : Reader.readRaw (v ++ t) = .ok (v, t) := by
  obtain ⟨cs, text⟩ := value.isText
  have decoded : Utf8.decode v = .ok cs := Utf8.decode_eq_ok_iff.mpr text
  have taken : (v ++ t).take ((v ++ t).length - t.length) = v := by simp
  simp only [Reader.readRaw, value.skipSpace, skipped, taken, decoded]

theorem IsValue.readRaw {v t : Bytes} (value : IsValue v) (ended : Ended t) :
    Reader.readRaw (v ++ t) = .ok (v, t) :=
  value.readRaw_of_skipValue (value.skipValue ended)

theorem whole_of_read {α : Type} {read : Bytes → Except Fault (α × Bytes)} {s : Bytes} {a : α}
    (h : read s = .ok (a, [])) : whole read s = .ok a := by
  simp [whole, h, Json.skipSpace]

theorem IsValue.whole_readRaw {v : Bytes} (value : IsValue v) :
    whole Reader.readRaw v = .ok v := by
  have read := value.readRaw ended_nil
  rw [List.append_nil] at read
  exact whole_of_read read

theorem isValue_of_readRaw {s v r : Bytes} (h : Reader.readRaw s = .ok (v, r)) : IsValue v := by
  unfold Reader.readRaw at h
  split at h
  · contradiction
  · rename_i t skipped
    have skips := skips_of_skipDue skipped
    obtain ⟨p, same, passed⟩ := skips.frame (by simp)
    have taken : (p ++ t).take ((p ++ t).length - t.length) = p := by simp
    rw [same, taken] at h
    simp only at h
    split at h
    · rename_i cs decoded
      cases h
      refine ⟨⟨cs, Utf8.decode_eq_ok_iff.mp decoded⟩, ?_, fun {inside t u} ended rest => ?_⟩
      · intro b first
        obtain ⟨q, rfl⟩ : ∃ q, v = b :: q := List.head?_eq_some_iff.mp first
        exact isSpace_head same
      · exact passed inside t u (.inr ended) rest
    · simp [fail] at h

theorem isValue_of_whole_readRaw {s v : Bytes} (h : whole Reader.readRaw s = .ok v) :
    IsValue v := by
  unfold whole at h
  split at h
  · contradiction
  · rename_i w r read
    split at h
    · cases h
      exact isValue_of_readRaw read
    · simp [fail] at h

theorem Raw.isValue_text (raw : Raw) : IsValue raw.text := by
  obtain ⟨source, read⟩ := raw.isValue
  exact isValue_of_whole_readRaw read

/-! ## Readers of what was written -/

theorem Reader.text_writeString (s : String) (t : Bytes) :
    Reader.text.run (writeString s ++ t) = .ok (s, t) := by
  simp only [Reader.text, Reader.readText, writeString, List.cons_append,
    skipSpace_of_head (b := 0x22) rfl, if_true]
  exact readString_writeTail s t

theorem IsValue.skipped {v t : Bytes} (value : IsValue v) (ended : Ended t) :
    Reader.skipped.run (v ++ t) = .ok ((), t) := by
  simp only [Reader.skipped, value.skipValue ended, Except.map]

/-- Where `null` stands for none, every other value is left to the reader. -/
theorem Reader.readOptional_value {α : Type} {reader : Reader α} {w v t : Bytes} (blank : Blank w)
    (value : Spells .value v) : readOptional reader (w ++ (v ++ t)) =
      if v = nullText then .ok (none, t)
      else (reader.run (w ++ (v ++ t))).map fun (a, r) => (some a, r) := by
  simp only [readOptional, blank.skipSpace, value.skipSpace]
  obtain ⟨b, r, rfl, _, _⟩ := value.head
  split
  · rename_i r' same
    cases same
    rw [if_pos value.eq_null]
    cases value.eq_null
    rfl
  · rename_i other
    rw [if_neg]
    intro null
    exact other _ (by rw [null]; rfl)

theorem IsValue.optional {α : Type} {reader : Reader α} {v t : Bytes} {a : α} (value : IsValue v)
    (read : reader.run (v ++ t) = .ok (a, t)) :
    reader.optional.run (v ++ t) = .ok (if v = nullText then none else some a, t) := by
  have optional := @Reader.readOptional_value α reader [] v t blank_nil (isValue_iff.mp value).1
  rw [List.nil_append, read] at optional
  refine optional.trans ?_
  split <;> rfl

theorem Reader.optional_fault {α : Type} {reader : Reader α} {v t : Bytes} {fault : Fault}
    (value : IsValue v) (notNull : v ≠ nullText) (read : reader.run (v ++ t) = .error fault) :
    reader.optional.run (v ++ t) = .error fault := by
  have optional := @Reader.readOptional_value α reader [] v t blank_nil (isValue_iff.mp value).1
  rw [List.nil_append, if_neg notNull, read] at optional
  exact optional

/-! ## Members -/

/-- What is written in front of a member. -/
def Turn.comma : Turn → Bytes
  | .first => []
  | .later => [0x2C]

theorem nextMember_written (turn : Turn) (name : String) (t : Bytes) :
    nextMember turn (turn.comma ++ (writeString name ++ t)) = .ok (some name, t) := by
  have read := readString_writeTail name t
  have member : memberName (writeString name ++ t) = .ok (some name, t) := by
    simp [memberName, writeString, read, Except.map]
  cases turn with
  | first => simpa [nextMember, Turn.comma, writeString, skipSpace_of_head (b := 0x22) rfl]
  | later =>
    simp only [nextMember, Turn.comma, List.cons_append, List.nil_append,
      skipSpace_of_head (b := 0x2C) rfl]
    simpa [writeString, skipSpace_of_head (b := 0x22) rfl]

variable {Parts Whole : Type} {schema : Schema Parts Whole} {turn : Turn} {parts parts' : Parts}
  {s r r' r'' : Bytes} {name : String} {whole : Whole}

theorem Schema.readMembers_none (close : nextMember turn s = .ok (none, r))
    (build : schema.build parts = .ok whole) :
    schema.readMembers turn parts s = .ok (whole, r) := by
  rw [Schema.readMembers.eq_def]
  split
  · simp_all
  · rename_i same
    cases close.symm.trans same
    rw [build]
  · simp_all

theorem Schema.readMembers_field {field : Field Parts}
    (member : nextMember turn s = .ok (some name, r))
    (found : schema.fields.find? (·.name = name) = some field)
    (unset : field.isSet parts = false) (colon : skipColon r = .ok r')
    (read : (field.reader parts).run r' = .ok (parts', r'')) :
    schema.readMembers turn parts s = schema.readMembers .later parts' r'' := by
  rw [Schema.readMembers.eq_def]
  split
  · simp_all
  · simp_all
  · rename_i same
    cases member.symm.trans same
    split
    · rename_i same
      cases found.symm.trans same
      simp only [unset, Bool.false_eq_true, if_false]
      split
      · simp_all
      · rename_i same
        cases colon.symm.trans same
        split
        · simp_all
        · rename_i same
          cases read.symm.trans same
          rfl
    · simp_all

/-- What a field cannot read is not read by the record. -/
theorem Schema.readMembers_fault {field : Field Parts} {fault : Fault}
    (member : nextMember turn s = .ok (some name, r))
    (found : schema.fields.find? (·.name = name) = some field)
    (unset : field.isSet parts = false) (colon : skipColon r = .ok r')
    (read : (field.reader parts).run r' = .error fault) :
    schema.readMembers turn parts s = .error fault := by
  rw [Schema.readMembers.eq_def]
  split
  · simp_all
  · simp_all
  · rename_i same
    cases member.symm.trans same
    split
    · rename_i same
      cases found.symm.trans same
      simp only [unset, Bool.false_eq_true, if_false]
      split
      · simp_all
      · rename_i same
        cases colon.symm.trans same
        split
        · simp_all
        · simp_all
    · simp_all

/-- One member of a written record goes to the first field of its name. -/
theorem Schema.readMembers_member {field : Field Parts} {v t : Bytes}
    (found : schema.fields.find? (·.name = name) = some field)
    (unset : field.isSet parts = false)
    (read : (field.reader parts).run (v ++ t) = .ok (parts', t)) :
    schema.readMembers turn parts (turn.comma ++ (writeString name ++ 0x3A :: (v ++ t)))
      = schema.readMembers .later parts' t := by
  have colon : skipColon (0x3A :: (v ++ t)) = .ok (v ++ t) := by
    simp [skipColon, skipSpace_of_head (b := 0x3A) rfl]
  exact readMembers_field (nextMember_written turn name _) found unset colon read

theorem Schema.readMembers_close {t : Bytes} (build : schema.build parts = .ok whole) :
    schema.readMembers turn parts (0x7D :: t) = .ok (whole, t) :=
  readMembers_none (by simp [nextMember, skipSpace_of_head (b := 0x7D) rfl]) build

theorem Schema.ofText_object
    (members : schema.readMembers .first schema.blank s = .ok (whole, [])) :
    schema.ofText (0x7B :: s) = .ok whole := by
  refine whole_of_read ?_
  simpa [Schema.read, skipSpace_of_head (b := 0x7B) rfl]

theorem Schema.ofText_fault {fault : Fault}
    (members : schema.readMembers .first schema.blank s = .error fault) :
    schema.ofText (0x7B :: s) = .error fault := by
  simp [Schema.ofText, Json.whole, Schema.read, skipSpace_of_head (b := 0x7B) rfl, members]

/-- A field that is read with a reader of its own takes what that reader gives back. -/
theorem Field.run_of {α : Type} {name : String} {get : Parts → Option α}
    {set : Parts → α → Parts} {reader : Reader α} {s r : Bytes} {a : α}
    (read : reader.run s = .ok (a, r)) :
    ((Field.of name get set reader).reader parts).run s = .ok (set parts a, r) := by
  simp only [Field.of, read, Except.map]

theorem Field.run_fault {α : Type} {name : String} {get : Parts → Option α}
    {set : Parts → α → Parts} {reader : Reader α} {s : Bytes} {fault : Fault}
    (read : reader.run s = .error fault) :
    ((Field.of name get set reader).reader parts).run s = .error fault := by
  simp only [Field.of, read, Except.map]

end Fanout.Json
