/-!
UTF-8 over lists of bytes: the bytes of a text, the character at the front of a list, and the
place from which a list is no UTF-8. Only shortest forms count and surrogates are refused.
-/

namespace Fanout

abbrev Bytes := List UInt8

namespace Utf8

def encodeChars (cs : List Char) : Bytes := cs.flatMap String.utf8EncodeChar

def encode (s : String) : Bytes := encodeChars s.toList

/-- A continuation byte carries six bits after the mark `10`. -/
def isTail (b : UInt8) : Bool := 0x80 ≤ b && b ≤ 0xBF

def tailBits (b : UInt8) : Nat := b.toNat % 64

/-- The character with code point `n`, unless a shorter form than the one read could hold it. -/
def scalar (least n : Nat) : Option Char :=
  if least ≤ n ∧ n.isValidChar then some (Char.ofNat n) else none

/-- The character that the list starts with, and the bytes behind it. -/
def next? : Bytes → Option (Char × Bytes)
  | [] => none
  | a :: s =>
    if a < 0x80 then some (Char.ofNat a.toNat, s)
    else if 0xC0 ≤ a ∧ a ≤ 0xDF then
      match s with
      | b :: r =>
        if isTail b then (scalar 0x80 (a.toNat % 32 * 64 + tailBits b)).map (·, r) else none
      | _ => none
    else if 0xE0 ≤ a ∧ a ≤ 0xEF then
      match s with
      | b :: c :: r =>
        if isTail b && isTail c then
          (scalar 0x800 (a.toNat % 16 * 4096 + tailBits b * 64 + tailBits c)).map (·, r)
        else none
      | _ => none
    else if 0xF0 ≤ a ∧ a ≤ 0xF7 then
      match s with
      | b :: c :: d :: r =>
        if isTail b && isTail c && isTail d then
          (scalar 0x10000 (a.toNat % 8 * 262144 + tailBits b * 4096 + tailBits c * 64
            + tailBits d)).map (·, r)
        else none
      | _ => none
    else none

theorem next?_length {s r : Bytes} {c : Char} (read : next? s = some (c, r)) :
    r.length < s.length := by
  unfold next? at read
  repeat' split at read
  all_goals first
    | (simp only [Option.map_eq_some_iff, Prod.mk.injEq] at read
       obtain ⟨_, _, _, rfl⟩ := read
       simp only [List.length_cons]; omega)
    | (simp only [Option.some.injEq, Prod.mk.injEq] at read
       obtain ⟨_, rfl⟩ := read
       simp only [List.length_cons]; omega)
    | simp at read

theorem toNat_ofNat {n : Nat} (valid : n.isValidChar) : (Char.ofNat n).toNat = n := by
  unfold Char.ofNat
  rw [dif_pos valid]
  rfl

theorem toNat_of_scalar {least n : Nat} {c : Char} (h : scalar least n = some c) :
    c.toNat = n := by
  unfold scalar at h
  split at h
  · rename_i valid
    simp only [Option.some.injEq] at h
    rw [← h]
    exact toNat_ofNat valid.2
  · simp at h

theorem utf8Size_le {c : Char} :
    (c.toNat < 0x80 → c.utf8Size ≤ 1) ∧ (c.toNat < 0x800 → c.utf8Size ≤ 2) ∧
      (c.toNat < 0x10000 → c.utf8Size ≤ 3) ∧ c.utf8Size ≤ 4 := by
  simp only [Char.toNat, Char.utf8Size, UInt32.le_iff_toNat_le, UInt32.toNat_ofNatLT]
  repeat' split
  all_goals omega

/-- The character takes no more room than the bytes it was read from. -/
theorem next?_size {s r : Bytes} {c : Char} (read : next? s = some (c, r)) :
    c.utf8Size + r.length ≤ s.length := by
  have bound := @utf8Size_le c
  unfold next? at read
  repeat' split at read
  all_goals
    first
    | simp only [Option.map_eq_some_iff, Prod.mk.injEq] at read
      obtain ⟨_, isChar, rfl, rfl⟩ := read
      have := toNat_of_scalar isChar
    | simp only [Option.some.injEq, Prod.mk.injEq] at read
    | simp only [reduceCtorEq] at read
  · rename_i a _ small
    obtain ⟨rfl, rfl⟩ := read
    have small : a.toNat < 128 := UInt8.lt_iff_toNat_lt.1 small
    have := toNat_ofNat (n := a.toNat) (Or.inl (by omega))
    simp only [List.length_cons]
    omega
  · simp only [tailBits, List.length_cons] at *
    omega
  · simp only [tailBits, List.length_cons] at *
    omega
  · simp only [List.length_cons]
    omega

/-- The characters of the list behind those already `done` (newest first), or the bytes from the
first one on that starts no character. -/
def decodeFrom (done : List Char) (s : Bytes) : Except Bytes (List Char) :=
  match s with
  | [] => .ok done.reverse
  | a :: r =>
    match read : next? (a :: r) with
    | none => .error (a :: r)
    | some (c, rest) =>
      have : rest.length < r.length + 1 := next?_length read
      decodeFrom (c :: done) rest
termination_by s.length

def decode (s : Bytes) : Except Bytes (List Char) := decodeFrom [] s

def decode? (s : Bytes) : Option String := (decode s).toOption.map String.ofList

/-- The bytes that may follow the first byte of a character. -/
def secondRange (a : UInt8) : UInt8 × UInt8 :=
  if a = 0xE0 then (0xA0, 0xBF)
  else if a = 0xED then (0x80, 0x9F)
  else if a = 0xF0 then (0x90, 0xBF)
  else if a = 0xF4 then (0x80, 0x8F)
  else (0x80, 0xBF)

/-- How many bytes one replacement character stands for: the longest start of a character that the
list begins with, at least one byte. -/
def brokenLength : Bytes → Nat
  | a :: b :: s =>
    if 0xE0 ≤ a ∧ a ≤ 0xF4 ∧ (secondRange a).1 ≤ b ∧ b ≤ (secondRange a).2 then
      match s with
      | c :: _ => if 0xF0 ≤ a ∧ isTail c then 3 else 2
      | [] => 2
    else 1
  | _ => 1

theorem brokenLength_pos (s : Bytes) : 0 < brokenLength s := by
  unfold brokenLength
  repeat' split
  all_goals omega

def replaceFrom (done : List Char) (s : Bytes) : List Char :=
  match s with
  | [] => done.reverse
  | a :: r =>
    match read : next? (a :: r) with
    | none =>
      have := brokenLength_pos (a :: r)
      replaceFrom ('\uFFFD' :: done) ((a :: r).drop (brokenLength (a :: r)))
    | some (c, rest) =>
      have : rest.length < (a :: r).length := next?_length read
      replaceFrom (c :: done) rest
termination_by s.length
decreasing_by
  · simp only [List.length_drop, List.length_cons]; omega
  · assumption

/-- The text of any bytes, with U+FFFD for what is no UTF-8. -/
def replaceBroken (s : Bytes) : String := String.ofList (replaceFrom [] s)

end Utf8

end Fanout
