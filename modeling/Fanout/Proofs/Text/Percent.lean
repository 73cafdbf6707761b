import Fanout.Proofs.Text.Utf8
import Fanout.Text.Percent

/-! Encoded forms. Every way to write the bytes of a text into a query, with percent signs, plus signs
or plainly, is read back as this text. -/

namespace Fanout.Text

/-- The bytes that do not stand for themselves in the value of a query: percent, plus, ampersand and
number sign. -/
def reserved : Bytes := [0x25, 0x2B, 0x26, 0x23]

/-- Some bytes, and a way to write them into a query. -/
inductive FormText : Bytes → Bytes → Prop where
  | nil : FormText [] []
  | plain {b : UInt8} {s q : Bytes} : b ∉ reserved → FormText s q → FormText (b :: s) (b :: q)
  | plus {s q : Bytes} : FormText s q → FormText (0x20 :: s) (0x2B :: q)
  | percent {a b : UInt8} {high low : Nat} {s q : Bytes} : hexValue? a = some high →
      hexValue? b = some low → FormText s q →
      FormText (UInt8.ofNat (high * 16 + low) :: s) (0x25 :: a :: b :: q)

theorem percentDecode_plain {b : UInt8} (plain : b ≠ 0x25) (s : Bytes) :
    percentDecode (b :: s) = b :: percentDecode s := by
  rw [percentDecode]
  intro _ _ _ percent
  exact absurd percent plain

theorem percentDecode_digits {a b : UInt8} {high low : Nat} (first : hexValue? a = some high)
    (second : hexValue? b = some low) (s : Bytes) :
    percentDecode (0x25 :: a :: b :: s)
      = UInt8.ofNat (high * 16 + low) :: percentDecode s := by
  rw [percentDecode]
  simp only [first, second]

/-- A digit is none of the bytes that are reserved. -/
theorem digit_not_reserved {b : UInt8} {n : Nat} (digit : hexValue? b = some n) :
    b ∉ reserved := by
  intro member
  simp only [reserved, List.mem_cons, List.not_mem_nil, or_false] at member
  rcases member with rfl | rfl | rfl | rfl <;> contradiction

theorem FormText.percentDecode {s q : Bytes} (text : FormText s q) :
    percentDecode (q.map fun b => if b = 0x2B then 0x20 else b) = s := by
  induction text with
  | nil => simp [Text.percentDecode]
  | @plain b s q plain _ ih =>
    simp only [reserved, List.mem_cons, List.not_mem_nil, or_false, not_or] at plain
    rw [List.map_cons, if_neg plain.2.1, percentDecode_plain plain.1, ih]
  | plus _ ih => rw [List.map_cons, if_pos rfl, percentDecode_plain (by decide), ih]
  | @percent a b high low s q first second _ ih =>
    have notPlus {c : UInt8} {n : Nat} (digit : hexValue? c = some n) : c ≠ 0x2B := by
      rintro rfl
      contradiction
    rw [List.map_cons, List.map_cons, List.map_cons, if_neg (by decide), if_neg (notPlus first),
      if_neg (notPlus second), percentDecode_digits first second, ih]

/-- What is written into a query ends neither its value nor the query. -/
theorem FormText.not_mem {s q : Bytes} (text : FormText s q) : 0x26 ∉ q ∧ 0x23 ∉ q := by
  have kept {b : UInt8} {q : Bytes} (plain : b ≠ 0x26 ∧ b ≠ 0x23) (rest : 0x26 ∉ q ∧ 0x23 ∉ q) :
      0x26 ∉ b :: q ∧ 0x23 ∉ b :: q :=
    ⟨List.not_mem_cons_of_ne_of_not_mem plain.1.symm rest.1,
      List.not_mem_cons_of_ne_of_not_mem plain.2.symm rest.2⟩
  have free {b : UInt8} (plain : b ∉ reserved) : b ≠ 0x26 ∧ b ≠ 0x23 := by
    simp only [reserved, List.mem_cons, List.not_mem_nil, or_false, not_or] at plain
    exact ⟨plain.2.2.1, plain.2.2.2⟩
  induction text with
  | nil => simp
  | plain plain _ ih => exact kept (free plain) ih
  | plus _ ih => exact kept (by decide) ih
  | percent first second _ ih =>
    exact kept (by decide) (kept (free (digit_not_reserved first))
      (kept (free (digit_not_reserved second)) ih))

/-- Where nothing is broken, nothing is replaced. -/
theorem replaceFrom_of_decodeFrom {done cs : List Char} {s : Bytes}
    (h : Utf8.decodeFrom done s = .ok cs) : Utf8.replaceFrom done s = cs := by
  fun_induction Utf8.decodeFrom done s with
  | case1 =>
    cases h
    rw [Utf8.replaceFrom]
  | case2 => contradiction
  | case3 done a r c rest read _ ih =>
    rw [Utf8.replaceFrom]
    split
    · simp_all
    · rename_i same
      cases read.symm.trans same
      exact ih h

theorem replaceBroken_encode (s : String) : Utf8.replaceBroken (Utf8.encode s) = s := by
  rw [Utf8.replaceBroken, Utf8.encode,
    replaceFrom_of_decodeFrom (Utf8.decodeFrom_encode [] s.toList)]
  simp

/-- However a text is encoded, it is read back. -/
theorem FormText.formDecode {s : String} {q : Bytes} (text : FormText (Utf8.encode s) q) :
    formDecode q = s := by
  rw [Text.formDecode, text.percentDecode, replaceBroken_encode]

theorem splitAt_of_not_mem {mark : UInt8} {s : Bytes} (free : mark ∉ s) :
    splitAt mark s = [s] := by
  induction s with
  | nil => rfl
  | cons b s ih =>
    rw [List.mem_cons, not_or] at free
    rw [splitAt, if_neg (Ne.symm free.1), ih free.2]

theorem cutAt_append {mark : UInt8} {name : Bytes} (free : mark ∉ name) (value : Bytes) :
    cutAt mark (name ++ mark :: value) = (name, value) := by
  have other : ∀ b ∈ name, (b != mark) = true := by
    intro b member
    rw [bne_iff_ne]
    rintro rfl
    exact free member
  simp only [cutAt, List.takeWhile_append_of_pos other, List.dropWhile_append_of_pos other]
  simp

/-- A query of one pair. -/
theorem formPairs_single {name : Bytes} {value : Bytes} (noMark : 0x3D ∉ name)
    (noEnd : 0x26 ∉ name) (noEnd' : 0x26 ∉ value) :
    formPairs (name ++ 0x3D :: value) = [(formDecode name, formDecode value)] := by
  have whole : 0x26 ∉ name ++ 0x3D :: value := by
    simp [noEnd, noEnd']
  have some : (name ++ 0x3D :: value).isEmpty = false := by
    cases name <;> rfl
  simp only [formPairs, splitAt_of_not_mem whole, List.filter_cons, some, List.filter_nil,
    List.map_cons, List.map_nil, cutAt_append noMark, Bool.not_false, if_true]

end Fanout.Text
