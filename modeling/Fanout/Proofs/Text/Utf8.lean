import Fanout.Text.Utf8

/-! The reader of UTF-8 undoes the encoding and accepts nothing else, so that a text is UTF-8
exactly if it encodes a list of characters. -/

namespace Fanout.Utf8

theorem toNat_range (c : Char) : c.toNat.isValidChar := c.valid

theorem toNat_lt (c : Char) : c.toNat < 0x110000 := by
  rcases toNat_range c with h | h
  · exact Nat.lt_of_lt_of_le h (by decide)
  · exact h.2

theorem scalar_toNat {least : Nat} {c : Char} (h : least ≤ c.toNat) :
    scalar least c.toNat = some c := by
  simp only [scalar, h, toNat_range c, and_self, if_true, Char.ofNat_toNat]

theorem least_of_scalar {least n : Nat} {c : Char} (h : scalar least n = some c) : least ≤ n := by
  unfold scalar at h
  split at h
  · rename_i valid
    exact valid.1
  · contradiction

theorem isTail_iff {b : UInt8} : isTail b = true ↔ 0x80 ≤ b.toNat ∧ b.toNat ≤ 0xBF := by
  simp [isTail, UInt8.le_iff_toNat_le]

/-- A byte with a mark above bits that it leaves free. -/
theorem toNat_ofNat_add (n mark : Nat) (h : n + mark < 256) :
    (UInt8.ofNat (n + mark)).toNat = n + mark := by
  rw [UInt8.toNat_ofNat']
  exact Nat.mod_eq_of_lt h

theorem isTail_ofNat (n : Nat) : isTail (UInt8.ofNat (n % 0x40 + 0x80)) = true := by
  rw [isTail_iff, toNat_ofNat_add _ _ (by omega)]
  omega

theorem tailBits_ofNat (n : Nat) : tailBits (UInt8.ofNat (n % 0x40 + 0x80)) = n % 0x40 := by
  rw [tailBits, toNat_ofNat_add _ _ (by omega)]
  omega

theorem next?_encode (c : Char) (t : Bytes) :
    next? (String.utf8EncodeChar c ++ t) = some (c, t) := by
  have bound := toNat_lt c
  have value : c.val.toNat = c.toNat := rfl
  unfold String.utf8EncodeChar
  simp only [value]
  split
  · rename_i small
    have byte : (UInt8.ofNat c.toNat).toNat = c.toNat :=
      toNat_ofNat_add c.toNat 0 (by omega)
    have low : UInt8.ofNat c.toNat < 0x80 := by
      rw [UInt8.lt_iff_toNat_lt, byte]
      exact Nat.lt_succ_of_le small
    simp only [List.cons_append, List.nil_append, next?, low, if_true, byte, Char.ofNat_toNat]
  split
  · rename_i least _
    have byte := toNat_ofNat_add (c.toNat / 64 % 0x20) 0xC0 (by omega)
    simp only [List.cons_append, List.nil_append, next?, UInt8.lt_iff_toNat_lt,
      UInt8.le_iff_toNat_le, byte, isTail_ofNat, tailBits_ofNat, if_true]
    rw [if_neg (by simp), if_pos ⟨by simp, by simp; omega⟩]
    have whole : (c.toNat / 64 % 0x20 + 0xC0) % 32 * 64 + c.toNat % 0x40 = c.toNat := by omega
    rw [whole, scalar_toNat (by omega), Option.map_some]
  split
  · have byte := toNat_ofNat_add (c.toNat / 4096 % 0x10) 0xE0 (by omega)
    simp only [List.cons_append, List.nil_append, next?, UInt8.lt_iff_toNat_lt,
      UInt8.le_iff_toNat_le, byte, isTail_ofNat, tailBits_ofNat, if_true, Bool.and_self]
    rw [if_neg (by simp), if_neg (by simp), if_pos ⟨by simp, by simp; omega⟩]
    have whole : (c.toNat / 4096 % 0x10 + 0xE0) % 16 * 4096 + c.toNat / 64 % 0x40 * 64
        + c.toNat % 0x40 = c.toNat := by omega
    rw [whole, scalar_toNat (by omega), Option.map_some]
  · have byte := toNat_ofNat_add (c.toNat / 262144 % 0x08) 0xF0 (by omega)
    simp only [List.cons_append, List.nil_append, next?, UInt8.lt_iff_toNat_lt,
      UInt8.le_iff_toNat_le, byte, isTail_ofNat, tailBits_ofNat, if_true, Bool.and_self]
    rw [if_neg (by simp), if_neg (by simp), if_neg (by simp), if_pos ⟨by simp, by simp; omega⟩]
    have whole : (c.toNat / 262144 % 0x08 + 0xF0) % 8 * 262144 + c.toNat / 4096 % 0x40 * 4096
        + c.toNat / 64 % 0x40 * 64 + c.toNat % 0x40 = c.toNat := by omega
    rw [whole, scalar_toNat (by omega), Option.map_some]

/-- A byte of a character is its code point or lies above ASCII. -/
theorem toNat_of_mem_encode {b : UInt8} {c : Char} (member : b ∈ String.utf8EncodeChar c) :
    b.toNat = c.toNat ∨ 0x80 ≤ b.toNat := by
  have value : c.val.toNat = c.toNat := rfl
  unfold String.utf8EncodeChar at member
  simp only [value] at member
  repeat' split at member
  all_goals simp only [List.mem_cons, List.not_mem_nil, or_false] at member
  · left
    rw [member]
    exact toNat_ofNat_add c.toNat 0 (by omega)
  all_goals
    right
    rcases member with rfl | rfl | rfl | rfl
    all_goals
      rw [toNat_ofNat_add _ _ (by omega)]
      omega

theorem encodeChar_ascii {c : Char} (low : c.toNat < 0x80) :
    String.utf8EncodeChar c = [UInt8.ofNat c.toNat] := by
  have value : c.val.toNat = c.toNat := rfl
  unfold String.utf8EncodeChar
  simp only [value]
  rw [if_pos (by omega)]

/-- A character that has a byte of ASCII is that byte. -/
theorem encode_of_mem_ascii {b : UInt8} {c : Char} (low : b < 0x80)
    (member : b ∈ String.utf8EncodeChar c) : String.utf8EncodeChar c = [b] := by
  have below : b.toNat < 0x80 := UInt8.lt_iff_toNat_lt.mp low
  rcases toNat_of_mem_encode member with same | above
  · rw [encodeChar_ascii (same ▸ below), ← same, UInt8.ofNat_toNat]
  · omega

/-- A byte is its mark and the bits that are free under it. -/
theorem eq_ofNat_of_mod {a : UInt8} {n : Nat} (h : a.toNat = n) : a = UInt8.ofNat n := by
  rw [← h, UInt8.ofNat_toNat]

theorem eq_tail {b : UInt8} {n : Nat} (tail : isTail b = true) (h : n % 0x40 = tailBits b) :
    b = UInt8.ofNat (n % 0x40 + 0x80) := by
  have range := isTail_iff.mp tail
  apply eq_ofNat_of_mod
  simp only [tailBits] at h
  omega

theorem encode_of_next? {s r : Bytes} {c : Char} (read : next? s = some (c, r)) :
    s = String.utf8EncodeChar c ++ r := by
  have value : c.val.toNat = c.toNat := rfl
  unfold String.utf8EncodeChar
  simp only [value]
  unfold next? at read
  repeat' split at read
  all_goals
    first
    | simp only [Option.map_eq_some_iff, Prod.mk.injEq] at read
      obtain ⟨_, isChar, rfl, rfl⟩ := read
      have number := toNat_of_scalar isChar
      have least := least_of_scalar isChar
    | simp only [Option.some.injEq, Prod.mk.injEq] at read
    | simp only [reduceCtorEq] at read
  · rename_i a _ small
    obtain ⟨rfl, rfl⟩ := read
    have small : a.toNat < 128 := UInt8.lt_iff_toNat_lt.mp small
    rw [toNat_ofNat (Or.inl (by omega)), if_pos (by omega), UInt8.ofNat_toNat]
    rfl
  · rename_i a _ lead _ b _ tail _
    simp only [UInt8.le_iff_toNat_le, UInt8.reduceToNat] at lead
    have bits : tailBits b < 64 := Nat.mod_lt _ (by decide)
    rw [number, if_neg (by omega), if_pos (by omega)]
    rw [← eq_tail tail (by omega), ← eq_ofNat_of_mod (a := a) (by omega)]
    rfl
  · rename_i a _ _ lead _ b d _ tail _
    simp only [UInt8.le_iff_toNat_le, UInt8.reduceToNat, Bool.and_eq_true] at lead tail
    have bits : tailBits b < 64 := Nat.mod_lt _ (by decide)
    have bits' : tailBits d < 64 := Nat.mod_lt _ (by decide)
    rw [number, if_neg (by omega), if_neg (by omega), if_pos (by omega)]
    rw [← eq_tail tail.1 (by omega), ← eq_tail tail.2 (by omega),
      ← eq_ofNat_of_mod (a := a) (by omega)]
    rfl
  · rename_i a _ _ _ lead _ b d e _ tail _
    simp only [UInt8.le_iff_toNat_le, UInt8.reduceToNat, Bool.and_eq_true] at lead tail
    have bits : tailBits b < 64 := Nat.mod_lt _ (by decide)
    have bits' : tailBits d < 64 := Nat.mod_lt _ (by decide)
    have bits'' : tailBits e < 64 := Nat.mod_lt _ (by decide)
    rw [number, if_neg (by omega), if_neg (by omega), if_neg (by omega)]
    rw [← eq_tail tail.1.1 (by omega), ← eq_tail tail.1.2 (by omega),
      ← eq_tail tail.2 (by omega), ← eq_ofNat_of_mod (a := a) (by omega)]
    rfl

theorem decodeFrom_encode (done cs : List Char) :
    decodeFrom done (encodeChars cs) = .ok (done.reverse ++ cs) := by
  induction cs generalizing done with
  | nil => simp [encodeChars, decodeFrom]
  | cons c cs ih =>
    have read := next?_encode c (encodeChars cs)
    rw [encodeChars, List.flatMap_cons]
    change decodeFrom done (String.utf8EncodeChar c ++ encodeChars cs) = _
    unfold decodeFrom
    split
    · rename_i empty
      rw [empty] at read
      simp [next?] at read
    · rename_i a r same
      split
      · rename_i none
        rw [← same, read] at none
        contradiction
      · rename_i d rest some
        rw [← same, read, Option.some.injEq, Prod.mk.injEq] at some
        obtain ⟨rfl, rfl⟩ := some
        rw [ih, List.reverse_cons, List.append_assoc, List.singleton_append]

theorem encode_of_decodeFrom {done cs : List Char} {s : Bytes} (h : decodeFrom done s = .ok cs) :
    encodeChars cs = encodeChars done.reverse ++ s := by
  fun_induction decodeFrom done s with
  | case1 =>
    cases h
    rw [List.append_nil]
  | case2 => contradiction
  | case3 done a r c rest read _ ih =>
    rw [ih h, encode_of_next? read, List.reverse_cons]
    simp [encodeChars, List.flatMap_append]

theorem decode_eq_ok_iff {s : Bytes} {cs : List Char} : decode s = .ok cs ↔ s = encodeChars cs := by
  constructor
  · intro h
    exact (encode_of_decodeFrom h).symm
  · rintro rfl
    exact decodeFrom_encode [] cs

/-! ## Texts -/

/-- The bytes of some characters. -/
def IsText (s : Bytes) : Prop := ∃ cs, s = encodeChars cs

theorem isText_nil : IsText [] := ⟨[], rfl⟩

theorem isText_encodeChar (c : Char) : IsText (String.utf8EncodeChar c) :=
  ⟨[c], by simp [encodeChars]⟩

theorem IsText.append {s t : Bytes} (left : IsText s) (right : IsText t) : IsText (s ++ t) := by
  obtain ⟨cs, rfl⟩ := left
  obtain ⟨ds, rfl⟩ := right
  exact ⟨cs ++ ds, by simp [encodeChars]⟩

theorem isText_ascii {s : Bytes} (ascii : s.all (· < 0x80) = true) : IsText s := by
  induction s with
  | nil => exact isText_nil
  | cons b s ih =>
    simp only [List.all_cons, Bool.and_eq_true, decide_eq_true_eq] at ascii
    obtain ⟨low, ascii⟩ := ascii
    have read : next? [b] = some (Char.ofNat b.toNat, []) := by simp [next?, low]
    have first := isText_encodeChar (Char.ofNat b.toNat)
    rw [← List.append_nil (String.utf8EncodeChar _), ← encode_of_next? read] at first
    exact first.append (ih ascii)

theorem IsText.cons {b : UInt8} {s : Bytes} (low : b < 0x80) (text : IsText s) :
    IsText (b :: s) := by
  have first : IsText [b] := isText_ascii (by simpa using low)
  exact first.append text

/-- Where a byte of ASCII stands, a text can be taken apart. -/
theorem IsText.split {b : UInt8} {p q : Bytes} (low : b < 0x80) (text : IsText (p ++ b :: q)) :
    IsText p ∧ IsText q := by
  obtain ⟨cs, same⟩ := text
  induction cs generalizing p with
  | nil => simp [encodeChars] at same
  | cons c cs ih =>
    have same : p ++ b :: q = String.utf8EncodeChar c ++ encodeChars cs := same
    rcases List.append_eq_append_iff.mp same with ⟨r, char, rest⟩ | ⟨r, rfl, rest⟩
    · cases r with
      | nil =>
        rw [List.append_nil] at char
        have right := (@ih [] rest).2
        exact ⟨char ▸ isText_encodeChar c, right⟩
      | cons a r =>
        cases rest
        have alone := encode_of_mem_ascii low (c := c) (by simp [char])
        rw [alone] at char
        obtain ⟨rfl, rfl⟩ : p = [] ∧ r = [] := by
          cases p <;> simp_all
        exact ⟨isText_nil, cs, rfl⟩
    · obtain ⟨left, right⟩ := ih rest.symm
      exact ⟨(isText_encodeChar c).append left, right⟩

/-- A text that is not empty starts with a character and goes on as a text. -/
theorem IsText.next? {b : UInt8} {s : Bytes} (text : IsText (b :: s)) :
    ∃ c r, next? (b :: s) = some (c, r) ∧ IsText r := by
  obtain ⟨cs, same⟩ := text
  cases cs with
  | nil => simp [encodeChars] at same
  | cons c cs =>
    have same : b :: s = String.utf8EncodeChar c ++ encodeChars cs := same
    exact ⟨c, encodeChars cs, by rw [same, next?_encode], cs, rfl⟩

end Fanout.Utf8
