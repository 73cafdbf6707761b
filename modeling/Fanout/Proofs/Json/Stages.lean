import Fanout.Json.Value
import Fanout.Proofs.Json.Grammar

/-! The rules by which a value is read, one for each token. -/

namespace Fanout.Json
open Text

/-- Where a reader stands behind an opening bracket. -/
def Bracket.stage : Bracket → Stage
  | .list => .list
  | .object => .object

/-- The words by their first bytes, with the values that they stand for. -/
def wordValues : List (UInt8 × Bytes × Value) :=
  [(0x6E, [0x75, 0x6C, 0x6C], .null), (0x74, [0x72, 0x75, 0x65], .bool true),
    (0x66, [0x61, 0x6C, 0x73, 0x65], .bool false)]

/-- What no numeral starts with is not its first byte. -/
theorem ne_of_first {b c : UInt8} (first : b = 0x2D ∨ isDigit b = true)
    (other : ¬ (c = 0x2D ∨ isDigit c = true)) : b ≠ c := by
  rintro rfl
  exact other first

section Rules
variable {room : Nat} {frames outer : List Frame} {s t u r : Bytes} {b : UInt8} {v : Value}
  {items : List Value} {members : List (String × Value)} {key : String}

theorem readStage_string (space : skipSpace s = 0x22 :: u) (read : readString u = .ok (key, r)) :
    readStage room .value frames s = readStage room (.complete (.string key)) frames r := by
  rw [readStage.eq_def]
  simp only
  split
  · simp_all
  · rename_i same
    cases space.symm.trans same
    simp only [if_true]
    split <;> simp_all

theorem readStage_stringFault {fault : Fault} (space : skipSpace s = 0x22 :: u)
    (read : readString u = .error fault) : readStage room .value frames s = .error fault := by
  rw [readStage.eq_def]
  simp only
  split
  · simp_all
  · rename_i same
    cases space.symm.trans same
    simp only [if_true]
    split <;> simp_all

theorem readStage_number {n : Number} (space : skipSpace s = b :: u)
    (first : b = 0x2D ∨ isDigit b = true) (read : readNumber (b :: u) = .ok (n, r)) :
    readStage room .value frames s = readStage room (.complete (.number n)) frames r := by
  have notQuote := @ne_of_first b 0x22 first (by decide)
  rw [readStage.eq_def]
  simp only
  split
  · simp_all
  · rename_i same
    cases space.symm.trans same
    simp only [notQuote, first, if_true, if_false]
    split <;> simp_all

theorem readStage_open {bracket : Bracket} (space : skipSpace s = bracket.opening :: u) :
    readStage room .value frames s =
      if room = 0 then fail .nestedTooDeep u else readStage (room - 1) bracket.stage frames u := by
  rw [readStage.eq_def]
  simp only
  split
  · simp_all
  · rename_i same
    cases space.symm.trans same
    cases bracket <;> simp [Bracket.opening, Bracket.stage, isDigit]

theorem readStage_word {word : Bytes} (space : skipSpace s = b :: u)
    (isWord : (b, word, v) ∈ wordValues) (scan : skipWord word u = .ok r) :
    readStage room .value frames s = readStage room (.complete v) frames r := by
  simp only [wordValues, List.mem_cons, Prod.mk.injEq, List.not_mem_nil, or_false] at isWord
  rw [readStage.eq_def]
  simp only
  split
  · simp_all
  · rename_i same
    cases space.symm.trans same
    rcases isWord with ⟨rfl, rfl, rfl⟩ | ⟨rfl, rfl, rfl⟩ | ⟨rfl, rfl, rfl⟩
    all_goals
      simp [isDigit]
      split <;> simp_all

theorem readStage_emptyList (space : skipSpace s = 0x5D :: u) :
    readStage room .list frames s = readStage (room + 1) (.complete (.array [])) frames u := by
  rw [readStage.eq_def]
  simp only
  split
  · simp_all
  · rename_i same
    cases space.symm.trans same
    simp

theorem readStage_emptyObject (space : skipSpace s = 0x7D :: u) :
    readStage room .object frames s = readStage (room + 1) (.complete (.object [])) frames u := by
  rw [readStage.eq_def]
  simp only
  split
  · simp_all
  · rename_i same
    cases space.symm.trans same
    simp

theorem readStage_item (space : skipSpace s = b :: u) (item : b ≠ 0x5D) :
    readStage room .list frames s = readStage room .value (.list [] :: frames) (b :: u) := by
  rw [readStage.eq_def]
  simp only
  split
  · simp_all
  · rename_i same
    cases space.symm.trans same
    simp [item]

theorem readStage_member (space : skipSpace s = b :: u) (item : b ≠ 0x7D) :
    readStage room .object frames s = readStage room (.key []) frames (b :: u) := by
  rw [readStage.eq_def]
  simp only
  split
  · simp_all
  · rename_i same
    cases space.symm.trans same
    simp [item]

theorem readStage_key (space : skipSpace s = 0x22 :: u) (read : readString u = .ok (key, t))
    (colon : skipSpace t = 0x3A :: r) (free : members = [] → key ≠ textKey) :
    readStage room (.key members) frames s
      = readStage room .value (.object members key :: frames) r := by
  rw [readStage.eq_def]
  simp only
  split
  · simp_all
  · rename_i same
    cases space.symm.trans same
    simp only [if_true]
    split
    · simp_all
    · rename_i same
      cases read.symm.trans same
      split
      · simp_all
      · rename_i same
        cases colon.symm.trans same
        simp_all

/-- A first member of the reserved name has to be a string. -/
theorem readStage_reserved (space : skipSpace s = 0x22 :: u) (read : readString u = .ok (textKey, t))
    (colon : skipSpace t = 0x3A :: r) {x : Bytes} (inner : skipSpace r = b :: x) (other : b ≠ 0x22) :
    readStage room (.key []) frames s = .error (unexpected "raw value" (b :: x)) := by
  rw [readStage.eq_def]
  simp only
  split
  · simp_all
  · rename_i same
    cases space.symm.trans same
    simp only [if_true]
    split
    · simp_all
    · rename_i same
      cases read.symm.trans same
      split
      · simp_all
      · rename_i same
        cases colon.symm.trans same
        simp only [if_true, List.isEmpty_nil, and_self]
        split
        · simp_all
        · rename_i same
          cases inner.symm.trans same
          simp only [other, if_false]

theorem readStage_nextItem (space : skipSpace s = 0x2C :: u) (inner : skipSpace u = b :: r)
    (item : b ≠ 0x5D) : readStage room (.complete v) (.list items :: outer) s
      = readStage room .value (.list (v :: items) :: outer) (b :: r) := by
  rw [readStage.eq_def]
  simp only
  split
  · simp_all
  · rename_i same
    cases space.symm.trans same
    simp
    split
    · simp_all
    · rename_i same
      cases inner.symm.trans same
      simp [item]

theorem readStage_closeList (space : skipSpace s = 0x5D :: u) :
    readStage room (.complete v) (.list items :: outer) s
      = readStage (room + 1) (.complete (.array (v :: items).reverse)) outer u := by
  rw [readStage.eq_def]
  simp only
  split
  · simp_all
  · rename_i same
    cases space.symm.trans same
    simp

theorem readStage_nextMember (space : skipSpace s = 0x2C :: u) :
    readStage room (.complete v) (.object members key :: outer) s
      = readStage room (.key (Value.insertMember key v members)) outer u := by
  rw [readStage.eq_def]
  simp only
  split
  · simp_all
  · rename_i same
    cases space.symm.trans same
    simp

theorem readStage_closeObject (space : skipSpace s = 0x7D :: u) :
    readStage room (.complete v) (.object members key :: outer) s
      = readStage (room + 1) (.complete (.object (Value.insertMember key v members))) outer u := by
  rw [readStage.eq_def]
  simp only
  split
  · simp_all
  · rename_i same
    cases space.symm.trans same
    simp

theorem readStage_done : readStage room (.complete v) [] s = .ok (v, s) := by
  rw [readStage.eq_def]

/-- Blanks in front of a value make no difference. -/
theorem readStage_skipSpace :
    readStage room .value frames (skipSpace s) = readStage room .value frames s := by
  rw [readStage.eq_def]
  simp only
  split
  · rename_i space
    rw [skipSpace_skipSpace] at space
    symm
    rw [readStage.eq_def]
    simp only
    split
    · rfl
    · simp_all
  · rename_i space
    rw [skipSpace_skipSpace] at space
    symm
    rw [readStage.eq_def]
    simp only
    split
    · simp_all
    · rename_i same
      cases space.symm.trans same
      rfl

end Rules

end Fanout.Json
