import Fanout.Json.Strings
import Fanout.Proofs.Text.Utf8

/-! A written string is read back, and both readers of strings stop right behind its closing quote,
whatever follows. Passing over a string depends on nothing that comes after it. -/

namespace Fanout.Json
open Text

/-- A byte that stands for itself between quotes. -/
def IsPlain (b : UInt8) : Prop := b ≠ 0x22 ∧ b ≠ 0x5C ∧ ¬ b < 0x20

theorem isPlain_of_range {b : UInt8} (h : 0x80 ≤ b.toNat) : IsPlain b := by
  refine ⟨?_, ?_, ?_⟩
  · rintro rfl
    contradiction
  · rintro rfl
    contradiction
  · rw [UInt8.lt_iff_toNat_lt]
    exact Nat.not_lt.mpr (Nat.le_trans (by decide) h)

theorem toNat_inj {c d : Char} (h : c.toNat = d.toNat) : c = d := by
  rw [← Char.ofNat_toNat c, h, Char.ofNat_toNat]

/-- A character that is written as it stands. -/
structure Char.IsPlain (c : Char) : Prop where
  notQuote : c ≠ '"'
  notBackslash : c ≠ '\\'
  notControl : 0x20 ≤ c.toNat

theorem Char.IsPlain.bytes {c : Char} (plain : IsPlain c) {b : UInt8}
    (member : b ∈ String.utf8EncodeChar c) : Json.IsPlain b := by
  rcases Utf8.toNat_of_mem_encode member with same | above
  · refine ⟨?_, ?_, ?_⟩
    · rintro rfl
      exact plain.notQuote (toNat_inj same.symm)
    · rintro rfl
      exact plain.notBackslash (toNat_inj same.symm)
    · rw [UInt8.lt_iff_toNat_lt, same]
      exact Nat.not_lt.mpr plain.notControl
  · exact isPlain_of_range above

theorem hexValue?_hexDigit : ∀ n < 16, hexValue? (hexDigit n).toUInt8 = some n := by decide

theorem isSimpleEscape_iff {b : UInt8} : isSimpleEscape b = (simpleEscape? b).isSome := by
  unfold isSimpleEscape simpleEscape?
  repeat' split
  all_goals simp_all

theorem hexUnit_write {n : Nat} (h : n < 0x100) (t : Bytes) :
    hexUnit (0x30 :: 0x30 :: (hexDigit (n / 16)).toUInt8 :: (hexDigit (n % 16)).toUInt8 :: t)
      = .ok (n, t) := by
  have zero : hexValue? 0x30 = some 0 := by decide
  simp only [hexUnit, zero, hexValue?_hexDigit (n / 16) (by omega),
    hexValue?_hexDigit (n % 16) (by omega)]
  congr 2
  omega

/-- A character is written as it stands or as an escape that reads back. -/
theorem writeChar_cases (c : Char) :
    (Char.IsPlain c ∧ writeChar c = String.utf8EncodeChar c) ∨
    (∃ e, simpleEscape? e = some c ∧ writeChar c = [0x5C, e]) ∨
    (c.toNat < 0x20 ∧ writeChar c = [0x5C, 0x75, 0x30, 0x30,
      (hexDigit (c.toNat / 16)).toUInt8, (hexDigit (c.toNat % 16)).toUInt8]) := by
  unfold writeChar
  split
  · exact .inr (.inl ⟨0x22, by simp_all [simpleEscape?], rfl⟩)
  split
  · exact .inr (.inl ⟨0x5C, by simp_all [simpleEscape?], rfl⟩)
  split
  · exact .inr (.inl ⟨0x62, by simp_all [simpleEscape?], rfl⟩)
  split
  · exact .inr (.inl ⟨0x66, by simp_all [simpleEscape?], rfl⟩)
  split
  · exact .inr (.inl ⟨0x6E, by simp_all [simpleEscape?], rfl⟩)
  split
  · exact .inr (.inl ⟨0x72, by simp_all [simpleEscape?], rfl⟩)
  split
  · exact .inr (.inl ⟨0x74, by simp_all [simpleEscape?], rfl⟩)
  split
  · rename_i control
    exact .inr (.inr ⟨control, rfl⟩)
  · rename_i quote backslash _ _ _ _ _ control
    exact .inl ⟨⟨quote, backslash, Nat.not_lt.mp control⟩, rfl⟩

theorem isText_writeChar (c : Char) : Utf8.IsText (writeChar c) := by
  have hex : ∀ n < 16, (hexDigit n).toUInt8 < 0x80 := by decide
  rcases writeChar_cases c with ⟨_, written⟩ | ⟨e, escape, written⟩ | ⟨control, written⟩
  · rw [written]
    exact Utf8.isText_encodeChar c
  · rw [written]
    refine Utf8.isText_ascii ?_
    have kinds : isSimpleEscape e = true := by rw [isSimpleEscape_iff, escape, Option.isSome_some]
    simp only [isSimpleEscape, Bool.or_eq_true, beq_iff_eq] at kinds
    rcases kinds with ((((((rfl | rfl) | rfl) | rfl) | rfl) | rfl) | rfl) | rfl
    all_goals decide
  · rw [written]
    refine Utf8.isText_ascii ?_
    have sixteens := hex (c.toNat / 16) (by omega)
    have units := hex (c.toNat % 16) (by omega)
    simp [sixteens, units]

theorem isText_writeTail (cs : List Char) : Utf8.IsText (writeTail cs) := by
  induction cs with
  | nil => exact Utf8.isText_ascii (by decide)
  | cons c cs ih =>
    rw [writeTail, List.flatMap_cons, List.append_assoc]
    exact (isText_writeChar c).append ih

/-! ## Reading -/

theorem readStringFrom_escape {done : List Char} {broken : Option Bytes} {s r : Bytes} {c : Char}
    (h : readEscape s = .ok (c, r)) :
    readStringFrom done broken (0x5C :: s) = readStringFrom (c :: done) broken r := by
  rw [readStringFrom.eq_def]
  simp only [show (0x5C : UInt8) ≠ 0x22 by decide, if_false, if_true]
  split
  · simp_all
  · simp_all

theorem readStringFrom_escapeFault {done : List Char} {broken : Option Bytes} {s : Bytes}
    {fault : Fault} (h : readEscape s = .error fault) :
    readStringFrom done broken (0x5C :: s) = .error fault := by
  rw [readStringFrom.eq_def]
  simp only [show (0x5C : UInt8) ≠ 0x22 by decide, if_false, if_true]
  split
  · simp_all
  · simp_all

theorem readStringFrom_plain {done : List Char} {broken : Option Bytes} {t : Bytes} {c : Char}
    (plain : Char.IsPlain c) :
    readStringFrom done broken (String.utf8EncodeChar c ++ t)
      = readStringFrom (c :: done) broken t := by
  obtain ⟨b, bs, same⟩ := List.exists_cons_of_ne_nil (String.utf8EncodeChar_ne_nil (c := c))
  have read := Utf8.next?_encode c t
  have first : Json.IsPlain b := plain.bytes (by simp [same])
  rw [same, List.cons_append] at read ⊢
  rw [readStringFrom.eq_def]
  simp only [first.1, first.2.1, first.2.2, if_false]
  split
  · simp_all
  · simp_all

theorem readEscape_simple {e : UInt8} {c : Char} (h : simpleEscape? e = some c) (t : Bytes) :
    readEscape (e :: t) = .ok (c, t) := by
  simp only [readEscape, h]

theorem readEscape_control {c : Char} (h : c.toNat < 0x20) (t : Bytes) :
    readEscape (0x75 :: 0x30 :: 0x30 :: (hexDigit (c.toNat / 16)).toUInt8
      :: (hexDigit (c.toNat % 16)).toUInt8 :: t) = .ok (c, t) := by
  have none : simpleEscape? 0x75 = none := by decide
  have low : isLowSurrogate c.toNat = false := by simp [isLowSurrogate]; omega
  have high : isHighSurrogate c.toNat = false := by simp [isHighSurrogate]; omega
  simp only [readEscape, none, if_true, hexUnit_write (show c.toNat < 0x100 by omega), low, high,
    Bool.false_eq_true, if_false, Char.ofNat_toNat]

theorem readStringFrom_writeChar (done : List Char) (broken : Option Bytes) (c : Char)
    (t : Bytes) : readStringFrom done broken (writeChar c ++ t)
      = readStringFrom (c :: done) broken t := by
  rcases writeChar_cases c with ⟨plain, written⟩ | ⟨e, escape, written⟩ | ⟨control, written⟩
  · rw [written, readStringFrom_plain plain]
  · rw [written]
    exact readStringFrom_escape (readEscape_simple escape t)
  · rw [written]
    exact readStringFrom_escape (readEscape_control control t)

theorem readStringFrom_writeTail (done cs : List Char) (t : Bytes) :
    readStringFrom done none (writeTail cs ++ t) = .ok (String.ofList (done.reverse ++ cs), t) := by
  induction cs generalizing done with
  | nil =>
    rw [writeTail, List.flatMap_nil, List.nil_append, List.singleton_append, readStringFrom]
    simp
  | cons c cs ih =>
    rw [writeTail, List.flatMap_cons, List.append_assoc, List.append_assoc,
      readStringFrom_writeChar, ← List.append_assoc]
    change readStringFrom (c :: done) none (writeTail cs ++ t) = _
    rw [ih, List.reverse_cons, List.append_assoc, List.singleton_append]

theorem readString_writeTail (s : String) (t : Bytes) :
    readString (writeTail s.toList ++ t) = .ok (s, t) := by
  simpa [readString] using readStringFrom_writeTail [] s.toList t

/-! ## Passing over -/

theorem skipString_close (t : Bytes) : skipString (0x22 :: t) = .ok t := by
  rw [skipString.eq_def]
  simp

theorem skipString_plain {b : UInt8} (plain : Json.IsPlain b) (t : Bytes) :
    skipString (b :: t) = skipString t := by
  rw [skipString.eq_def]
  simp only [plain.1, plain.2.1, plain.2.2, if_false]

theorem skipString_simple {e : UInt8} (escape : isSimpleEscape e = true) (t : Bytes) :
    skipString (0x5C :: e :: t) = skipString t := by
  rw [skipString.eq_def]
  simp [escape]

theorem skipString_unit {s r : Bytes} {n : Nat} (h : hexUnit s = .ok (n, r)) :
    skipString (0x5C :: 0x75 :: s) = skipString r := by
  rw [skipString.eq_def]
  simp only [show (0x5C : UInt8) ≠ 0x22 by decide, show isSimpleEscape 0x75 = false by decide,
    if_true, if_false, Bool.false_eq_true]
  split
  · simp_all
  · simp_all

theorem skipString_plains {p : Bytes} (plain : ∀ b ∈ p, Json.IsPlain b) (t : Bytes) :
    skipString (p ++ t) = skipString t := by
  induction p with
  | nil => rfl
  | cons b p ih =>
    rw [List.cons_append, skipString_plain (plain b List.mem_cons_self)]
    exact ih fun c member => plain c (List.mem_cons_of_mem b member)

theorem skipString_writeChar (c : Char) (t : Bytes) :
    skipString (writeChar c ++ t) = skipString t := by
  rcases writeChar_cases c with ⟨plain, written⟩ | ⟨e, escape, written⟩ | ⟨control, written⟩
  · rw [written]
    exact skipString_plains (fun _ member => plain.bytes member) t
  · rw [written]
    exact skipString_simple (by rw [isSimpleEscape_iff, escape, Option.isSome_some]) t
  · rw [written]
    exact skipString_unit (hexUnit_write (by omega) t)

theorem skipString_writeTail (cs : List Char) (t : Bytes) :
    skipString (writeTail cs ++ t) = .ok t := by
  induction cs with
  | nil => exact skipString_close t
  | cons c cs ih =>
    rw [writeTail, List.flatMap_cons, List.append_assoc, List.append_assoc, skipString_writeChar,
      ← List.append_assoc]
    exact ih

theorem hexUnit_prefix {s r : Bytes} {n : Nat} (h : hexUnit s = .ok (n, r)) :
    ∃ p, s = p ++ r ∧ ∀ t, hexUnit (p ++ t) = .ok (n, t) := by
  unfold hexUnit at h
  split at h
  · rename_i a b c d rest
    split at h
    · rename_i va vb vc vd
      simp only [Except.ok.injEq, Prod.mk.injEq] at h
      obtain ⟨rfl, rfl⟩ := h
      exact ⟨[a, b, c, d], rfl, fun t => by simp [hexUnit, va, vb, vc, vd]⟩
    · simp [fail] at h
  · simp [fail] at h

/-- What was passed over is passed over whatever follows it. -/
theorem skipString_prefix {s r : Bytes} (h : skipString s = .ok r) :
    ∃ p, s = p ++ r ∧ ∀ t, skipString (p ++ t) = .ok t := by
  fun_induction skipString s with
  | case2 =>
    simp only [Except.ok.injEq] at h
    subst h
    exact ⟨[0x22], rfl, skipString_close⟩
  | case4 e s simple _ ih =>
    obtain ⟨p, rfl, scans⟩ := ih h
    exact ⟨0x5C :: e :: p, rfl, fun t => (skipString_simple simple _).trans (scans t)⟩
  | case5 s _ _ unit _ _ _ ih =>
    obtain ⟨p, rfl, scans⟩ := ih h
    obtain ⟨q, rfl, reads⟩ := hexUnit_prefix unit
    refine ⟨0x5C :: 0x75 :: (q ++ p), by simp, ?_⟩
    intro t
    have scan := (skipString_unit (reads (p ++ t))).trans (scans t)
    simpa using scan
  | case9 b s _ _ _ ih =>
    obtain ⟨p, rfl, scans⟩ := ih h
    exact ⟨b :: p, rfl, fun t => (skipString_plain ⟨‹_›, ‹_›, ‹_›⟩ _).trans (scans t)⟩
  | _ => simp_all [fail]

end Fanout.Json
