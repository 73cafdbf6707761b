import Fanout.Json.Value
import Fanout.Proofs.Json.Number
import Fanout.Proofs.Json.Skip

/-! Every written value is passed over as one value wherever a value is due. The text of a list or
an object is put together from its items, and the judgments for the parts follow that grammar, so
that no bound on the depth enters. -/

namespace Fanout.Json
open Text

/-- A text that is one value in every surrounding that does not go on with a numeral. -/
structure IsValue (v : Bytes) : Prop where
  isText : Utf8.IsText v
  notBlank : ∀ b ∈ v.head?, isSpace b = false
  passed : ∀ {inside t u}, Ended t → Skips .next inside t u → Skips .value inside (v ++ t) u

/-- A text that is one item in such brackets. -/
structure IsItem (bracket : Bracket) (p : Bytes) : Prop where
  isText : Utf8.IsText p
  notBlank : ∀ b ∈ p.head?, isSpace b = false
  passed : ∀ {outer t u}, Ended t → Skips .next (bracket :: outer) t u →
    Skips bracket.item (bracket :: outer) (p ++ t) u

/-- What stands behind an item up to the bracket that closes around it. -/
structure IsRest (bracket : Bracket) (w : Bytes) : Prop where
  isText : Utf8.IsText w
  ended : ∀ t, Ended (w ++ t)
  passed : ∀ {outer t u}, Skips .next outer t u → Skips .next (bracket :: outer) (w ++ t) u

/-- A string with its quotes. -/
structure IsName (k : Bytes) : Prop where
  isText : Utf8.IsText k
  passed : ∀ t, ∃ s, k ++ t = 0x22 :: s ∧ skipString s = .ok t

/-! ## What an item starts with -/

theorem Skips.value_head {inside : List Bracket} {s r : Bytes} (h : Skips .value inside s r) :
    ∃ b t, skipSpace s = b :: t ∧ b ≠ 0x5D := by
  cases h with
  | string space => exact ⟨_, _, space, by decide⟩
  | numeral space first =>
    refine ⟨_, _, space, ?_⟩
    rintro rfl
    simp [isDigit] at first
  | word space isWord =>
    refine ⟨_, _, space, ?_⟩
    rintro rfl
    simp [words] at isWord
  | @opening _ bracket _ _ _ space => exact ⟨_, _, space, by cases bracket <;> decide⟩

theorem Skips.item_head {bracket : Bracket} {inside : List Bracket} {s r : Bytes}
    (h : Skips bracket.item inside s r) : ∃ b t, skipSpace s = b :: t ∧ b ≠ bracket.close := by
  cases bracket with
  | list => exact h.value_head
  | object =>
    cases h with
    | key space => exact ⟨_, _, space, by decide⟩

theorem skipSpace_close (bracket : Bracket) (t : Bytes) :
    skipSpace (bracket.close :: t) = bracket.close :: t :=
  skipSpace_of_head (by cases bracket <;> rfl) t

theorem ended_close (bracket : Bracket) (t : Bytes) : Ended (bracket.close :: t) := by
  intro b first
  cases first
  cases bracket <;> simp [Bracket.close]

theorem IsItem.head {bracket : Bracket} {p : Bytes} (item : IsItem bracket p) :
    ∃ b r, p = b :: r ∧ isSpace b = false ∧ b ≠ bracket.close := by
  have closing : Skips .next [bracket] [bracket.close] [] :=
    .closing (skipSpace_close bracket []) .done
  obtain ⟨b, t, space, notClose⟩ := (item.passed (ended_close bracket []) closing).item_head
  cases p with
  | nil =>
    rw [List.nil_append, skipSpace_close] at space
    cases space
    contradiction
  | cons c r =>
    have notBlank := item.notBlank c rfl
    rw [List.cons_append, skipSpace_of_head notBlank] at space
    cases space
    exact ⟨b, r, rfl, notBlank, notClose⟩

theorem IsValue.item {v : Bytes} (value : IsValue v) : IsItem .list v :=
  ⟨value.isText, value.notBlank, value.passed⟩

theorem IsName.head {k : Bytes} (name : IsName k) : ∃ r, k = 0x22 :: r := by
  obtain ⟨s, same, scan⟩ := name.passed []
  exact ⟨s, by simpa using same⟩

theorem IsName.notBlank {k : Bytes} (name : IsName k) (p : Bytes) :
    ∀ b ∈ (k ++ p).head?, isSpace b = false := by
  obtain ⟨r, rfl⟩ := name.head
  intro b first
  cases first
  rfl

/-! ## Scalars -/

theorem isPlain_of_isDigit {b : UInt8} (digit : isDigit b = true) : IsPlain b := by
  refine ⟨?_, ?_, ?_⟩
  · rintro rfl
    contradiction
  · rintro rfl
    contradiction
  · intro control
    simp only [isDigit, Bool.and_eq_true, decide_eq_true_eq] at digit
    have below : b < 0x30 := UInt8.lt_of_lt_of_le control (by decide)
    exact absurd below (UInt8.not_lt.mpr digit.1)

theorem isValue_numeral {p : Bytes} (numeral : IsNumeral p) : IsValue p := by
  obtain ⟨n, text⟩ := numeral
  constructor
  case isText => exact text.isText
  case notBlank =>
    obtain ⟨b, r, same, _, notBlank⟩ := numeral_first text []
    rw [List.append_nil] at same
    subst same
    intro c first
    cases first
    exact notBlank
  case passed =>
    intro inside t u ended rest
    exact skips_numeral text (ended.endsBefore n) rest

theorem isValue_word {b : UInt8} {word : Bytes} (isWord : (b, word) ∈ words) :
    IsValue (b :: word) := by
  constructor
  case isText =>
    have ascii : ∀ w ∈ words, (w.1 :: w.2).all (· < 0x80) = true := by decide
    exact Utf8.isText_ascii (ascii _ isWord)
  case notBlank =>
    intro c same
    cases same
    exact notBlank_word isWord
  case passed =>
    intro inside t u _ rest
    exact skips_word isWord rest

theorem isName_writeString (s : String) : IsName (writeString s) := by
  constructor
  case isText => exact (isText_writeTail s.toList).cons (by decide)
  case passed =>
    intro t
    exact ⟨writeTail s.toList ++ t, rfl, skipString_writeTail s.toList t⟩

theorem IsName.isValue {k : Bytes} (name : IsName k) : IsValue k := by
  constructor
  case isText => exact name.isText
  case notBlank => simpa using name.notBlank []
  case passed =>
    intro inside t u _ rest
    obtain ⟨s, same, scan⟩ := name.passed t
    rw [same]
    exact skips_string scan rest

/-! ## Lists and objects -/

theorem IsName.member {k v : Bytes} (name : IsName k) (value : IsValue v) :
    IsItem .object (k ++ 0x3A :: v) := by
  constructor
  case isText => exact name.isText.append (value.isText.cons (by decide))
  case notBlank => exact name.notBlank _
  case passed =>
    intro outer t u ended rest
    obtain ⟨s, same, scan⟩ := name.passed (0x3A :: (v ++ t))
    rw [List.append_assoc, List.cons_append, same]
    exact .key (skipSpace_of_head rfl s) scan (skipSpace_of_head rfl _) (value.passed ended rest)

theorem isRest_close (bracket : Bracket) : IsRest bracket [bracket.close] := by
  constructor
  case isText => exact Utf8.isText_ascii (by cases bracket <;> decide)
  case ended => exact ended_close bracket
  case passed =>
    intro outer t u rest
    exact .closing (skipSpace_close bracket _) rest

theorem IsItem.rest {bracket : Bracket} {p w : Bytes} (item : IsItem bracket p)
    (rest : IsRest bracket w) : IsRest bracket (0x2C :: (p ++ w)) := by
  constructor
  case isText => exact (item.isText.append rest.isText).cons (by decide)
  case ended =>
    intro t b first
    cases first
    exact .inr (.inl rfl)
  case passed =>
    intro outer t u last
    rw [List.cons_append, List.append_assoc]
    exact .comma (skipSpace_of_head rfl _) (item.passed (rest.ended t) (rest.passed last))

theorem skipSpace_opening (bracket : Bracket) (t : Bytes) :
    skipSpace (bracket.opening :: t) = bracket.opening :: t :=
  skipSpace_of_head (by cases bracket <;> rfl) t

theorem IsItem.isValue {bracket : Bracket} {p w : Bytes} (item : IsItem bracket p)
    (rest : IsRest bracket w) : IsValue (bracket.opening :: (p ++ w)) := by
  constructor
  case isText => exact (item.isText.append rest.isText).cons (by cases bracket <;> decide)
  case notBlank =>
    intro b first
    cases first
    cases bracket <;> rfl
  case passed =>
    intro inside t u ended last
    obtain ⟨b, r, rfl, notBlank, notClose⟩ := item.head
    have items := item.passed (rest.ended t) (rest.passed last)
    rw [List.cons_append, List.append_assoc]
    exact .opening (skipSpace_opening bracket _)
      (.first (skipSpace_of_head notBlank _) notClose items)

theorem isValue_empty (bracket : Bracket) : IsValue [bracket.opening, bracket.close] := by
  constructor
  case isText => exact Utf8.isText_ascii (by cases bracket <;> decide)
  case notBlank =>
    intro b first
    cases first
    cases bracket <;> rfl
  case passed =>
    intro inside t u _ last
    exact .opening (skipSpace_opening bracket _) (.empty (skipSpace_close bracket _) last)

theorem isValue_null : IsValue Value.null.write := isValue_word (by simp [words])

theorem isValue_number (n : Number) : IsValue n.write := by
  cases n with
  | integer i => exact isValue_numeral (isNumeral_integer i)
  | float x =>
    simp only [Number.write]
    cases written : floatLayout.write? (.ofFloat x) with
    | none => exact isValue_null
    | some p =>
      exact isValue_numeral (isNumeral_of_write? (Decimal.representable_ofFloat x) written)

mutual

theorem Value.isValue_write : ∀ v : Value, IsValue v.write
  | .null => isValue_null
  | .bool true => isValue_word (by simp [words])
  | .bool false => isValue_word (by simp [words])
  | .number n => isValue_number n
  | .string s => (isName_writeString s).isValue
  | .array [] => isValue_empty .list
  | .array (v :: vs) => v.isValue_write.item.isValue (isRest_writeItems vs)
  | .object [] => isValue_empty .object
  | .object ((k, v) :: vs) => by
    have members := ((isName_writeString k).member v.isValue_write).isValue (isRest_writeMembers vs)
    simpa [Value.write, Bracket.opening] using members

theorem isRest_writeItems : ∀ vs : List Value, IsRest .list (Value.writeItems vs)
  | [] => isRest_close .list
  | v :: vs => v.isValue_write.item.rest (isRest_writeItems vs)

theorem isRest_writeMembers : ∀ vs : List (String × Value), IsRest .object (Value.writeMembers vs)
  | [] => isRest_close .object
  | (k, v) :: vs => by
    have members := ((isName_writeString k).member v.isValue_write).rest (isRest_writeMembers vs)
    simpa [Value.writeMembers] using members

end

theorem IsValue.skipValue {v t : Bytes} (value : IsValue v) (ended : Ended t) :
    skipValue (v ++ t) = .ok t :=
  skipDue_of_skips (value.passed ended .done)

theorem IsValue.skipSpace {v : Bytes} (value : IsValue v) (t : Bytes) :
    skipSpace (v ++ t) = v ++ t := by
  obtain ⟨b, r, rfl, notBlank, _⟩ := value.item.head
  exact skipSpace_of_head notBlank _

end Fanout.Json
