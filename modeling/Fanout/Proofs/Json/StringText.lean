import Fanout.Proofs.Json.Strings

/-! The grammar of strings in JSON text, between the quotes. The reader of strings accepts exactly
the texts of characters, and passing over one accepts some more: any bytes above the control
characters, and halves of surrogate pairs. -/

namespace Fanout.Json
open Text

/-- Four hexadecimal digits and the number they make. -/
inductive UnitText : Nat → Bytes → Prop where
  | digits {a b c d : UInt8} {i j k l : Nat} : hexValue? a = some i → hexValue? b = some j →
      hexValue? c = some k → hexValue? d = some l →
      UnitText (i * 4096 + j * 256 + k * 16 + l) [a, b, c, d]

/-- A character and a text that stands for it between quotes. -/
inductive CharText : Char → Bytes → Prop where
  | plain {c : Char} : Char.IsPlain c → CharText c (String.utf8EncodeChar c)
  | letter {e : UInt8} {c : Char} : simpleEscape? e = some c → CharText c [0x5C, e]
  | unit {n : Nat} {q : Bytes} : UnitText n q → isLowSurrogate n = false →
      isHighSurrogate n = false → CharText (Char.ofNat n) (0x5C :: 0x75 :: q)
  | pair {high low : Nat} {q q' : Bytes} : UnitText high q → isHighSurrogate high = true →
      UnitText low q' → isLowSurrogate low = true →
      CharText (Char.ofNat (0x10000 + (high - 0xD800) * 0x400 + (low - 0xDC00)))
        (0x5C :: 0x75 :: (q ++ 0x5C :: 0x75 :: q'))

inductive StringText : List Char → Bytes → Prop where
  | nil : StringText [] []
  | cons {c : Char} {cs : List Char} {q p : Bytes} : CharText c q → StringText cs p →
      StringText (c :: cs) (q ++ p)

/-- What may stand between quotes that are passed over. -/
inductive SkippedText : Bytes → Prop where
  | nil : SkippedText []
  | plain {b : UInt8} {p : Bytes} : Json.IsPlain b → SkippedText p → SkippedText (b :: p)
  | letter {e : UInt8} {p : Bytes} : isSimpleEscape e = true → SkippedText p →
      SkippedText (0x5C :: e :: p)
  | unit {n : Nat} {q p : Bytes} : UnitText n q → SkippedText p →
      SkippedText (0x5C :: 0x75 :: (q ++ p))

theorem UnitText.hexUnit {n : Nat} {q : Bytes} (text : UnitText n q) (t : Bytes) :
    hexUnit (q ++ t) = .ok (n, t) := by
  cases text with
  | digits a b c d => simp only [List.cons_append, List.nil_append, Json.hexUnit, a, b, c, d]

theorem unitText_of_hexUnit {s r : Bytes} {n : Nat} (h : hexUnit s = .ok (n, r)) :
    ∃ q, UnitText n q ∧ s = q ++ r := by
  unfold hexUnit at h
  split at h
  · split at h
    · rename_i a b c d
      cases h
      exact ⟨_, .digits a b c d, rfl⟩
    · simp [fail] at h
  · simp [fail] at h

/-! ## Passing over -/

theorem SkippedText.skipString {p : Bytes} (text : SkippedText p) (t : Bytes) :
    skipString (p ++ 0x22 :: t) = .ok t := by
  induction text with
  | nil => exact skipString_close t
  | plain plain _ ih => exact (skipString_plain plain _).trans ih
  | letter escape _ ih => exact (skipString_simple escape _).trans ih
  | @unit n q p unit _ ih =>
    have scan := (skipString_unit (unit.hexUnit (p ++ 0x22 :: t))).trans ih
    simpa using scan

theorem skippedText_of_skipString {s r : Bytes} (h : skipString s = .ok r) :
    ∃ p, SkippedText p ∧ s = p ++ 0x22 :: r := by
  fun_induction skipString s with
  | case2 =>
    cases h
    exact ⟨[], .nil, rfl⟩
  | case4 e s simple _ ih =>
    obtain ⟨p, text, rfl⟩ := ih h
    exact ⟨_, .letter simple text, rfl⟩
  | case5 s _ _ unit _ _ _ ih =>
    obtain ⟨p, text, rfl⟩ := ih h
    obtain ⟨q, digits, rfl⟩ := unitText_of_hexUnit unit
    exact ⟨_, .unit digits text, by simp⟩
  | case9 b s notQuote notBackslash notControl ih =>
    obtain ⟨p, text, rfl⟩ := ih h
    exact ⟨_, .plain ⟨notQuote, notBackslash, notControl⟩ text, rfl⟩
  | _ => simp_all [fail]

theorem SkippedText.append {p q : Bytes} (left : SkippedText p) (right : SkippedText q) :
    SkippedText (p ++ q) := by
  induction left with
  | nil => exact right
  | plain plain _ ih => exact .plain plain ih
  | letter escape _ ih => exact .letter escape ih
  | unit digits _ ih =>
    have text := SkippedText.unit digits ih
    rwa [← List.append_assoc] at text

theorem skippedText_plains {p : Bytes} (plain : ∀ b ∈ p, Json.IsPlain b) : SkippedText p := by
  induction p with
  | nil => exact .nil
  | cons b p ih =>
    have rest := ih fun c member => plain c (List.mem_cons_of_mem b member)
    exact .plain (plain b List.mem_cons_self) rest

theorem UnitText.skipped {n : Nat} {q : Bytes} (text : UnitText n q) :
    SkippedText (0x5C :: 0x75 :: q) := by
  simpa using SkippedText.unit text .nil

theorem CharText.skipped {c : Char} {q : Bytes} (text : CharText c q) : SkippedText q := by
  cases text with
  | plain plain => exact skippedText_plains fun _ member => plain.bytes member
  | letter escape => exact .letter (by rw [isSimpleEscape_iff, escape, Option.isSome_some]) .nil
  | unit digits => exact digits.skipped
  | pair first _ second _ => simpa using SkippedText.unit first second.skipped

theorem StringText.skipped {cs : List Char} {p : Bytes} (text : StringText cs p) :
    SkippedText p := by
  induction text with
  | nil => exact .nil
  | cons char _ ih => exact char.skipped.append ih

/-! ## Reading -/

theorem readEscape_unit {n : Nat} {q : Bytes} (digits : UnitText n q)
    (notLow : isLowSurrogate n = false) (t : Bytes) :
    readEscape (0x75 :: (q ++ t)) =
      if isHighSurrogate n then readLowSurrogate n t else .ok (Char.ofNat n, t) := by
  have none : simpleEscape? 0x75 = none := by decide
  simp only [readEscape, none, if_true, digits.hexUnit, notLow, Bool.false_eq_true, if_false]

theorem readEscape_low {n : Nat} {q : Bytes} (digits : UnitText n q)
    (isLow : isLowSurrogate n = true) (t : Bytes) :
    readEscape (0x75 :: (q ++ t)) = fail .loneSurrogate t := by
  have none : simpleEscape? 0x75 = none := by decide
  simp only [readEscape, none, if_true, digits.hexUnit, isLow]

theorem readLowSurrogate_unit {high low : Nat} {q : Bytes} (digits : UnitText low q)
    (isLow : isLowSurrogate low = true) (t : Bytes) :
    readLowSurrogate high (0x5C :: 0x75 :: (q ++ t)) =
      .ok (Char.ofNat (0x10000 + (high - 0xD800) * 0x400 + (low - 0xDC00)), t) := by
  simp only [readLowSurrogate, if_true, digits.hexUnit, isLow]

theorem CharText.readStringFrom {c : Char} {q : Bytes} (text : CharText c q) (done : List Char)
    (broken : Option Bytes) (t : Bytes) :
    readStringFrom done broken (q ++ t) = readStringFrom (c :: done) broken t := by
  cases text with
  | plain plain => exact readStringFrom_plain plain
  | letter escape => exact readStringFrom_escape (readEscape_simple escape t)
  | unit digits notLow notHigh =>
    have escape := readEscape_unit digits notLow t
    rw [notHigh, if_neg (by decide)] at escape
    exact readStringFrom_escape escape
  | @pair high low q q' first isHigh second isLow =>
    have notLow : isLowSurrogate high = false := by
      simp only [isHighSurrogate, isLowSurrogate, Bool.and_eq_true, decide_eq_true_eq,
        Bool.and_eq_false_iff, decide_eq_false_iff_not] at *
      omega
    have escape := readEscape_unit first notLow (0x5C :: 0x75 :: (q' ++ t))
    rw [isHigh, if_pos rfl, readLowSurrogate_unit second isLow] at escape
    have read := @readStringFrom_escape done broken _ _ _ escape
    simpa using read

theorem readStringFrom_close (done : List Char) (t : Bytes) :
    readStringFrom done none (0x22 :: t) = .ok (String.ofList done.reverse, t) := by
  rw [readStringFrom.eq_def]
  simp

theorem StringText.readStringFrom {cs : List Char} {p : Bytes} (text : StringText cs p)
    (done : List Char) (t : Bytes) :
    readStringFrom done none (p ++ 0x22 :: t) = .ok (String.ofList (done.reverse ++ cs), t) := by
  induction text generalizing done with
  | nil =>
    rw [List.nil_append, readStringFrom_close, List.append_nil]
  | cons char _ ih =>
    rw [List.append_assoc, char.readStringFrom, ih, List.reverse_cons, List.append_assoc]
    rfl

theorem unitText_of_readLowSurrogate {high : Nat} {s r : Bytes} {c : Char}
    (h : readLowSurrogate high s = .ok (c, r)) :
    ∃ low q, UnitText low q ∧ isLowSurrogate low = true ∧ s = 0x5C :: 0x75 :: (q ++ r) ∧
      c = Char.ofNat (0x10000 + (high - 0xD800) * 0x400 + (low - 0xDC00)) := by
  unfold readLowSurrogate at h
  repeat' split at h
  all_goals simp only [fail, Except.ok.injEq, Prod.mk.injEq, reduceCtorEq] at h
  obtain ⟨rfl, rfl⟩ := h
  rename_i unit isLow
  obtain ⟨q, digits, rfl⟩ := unitText_of_hexUnit unit
  subst_vars
  exact ⟨_, q, digits, isLow, rfl, rfl⟩

theorem charText_of_readEscape {s r : Bytes} {c : Char} (h : readEscape s = .ok (c, r)) :
    ∃ q, CharText c (0x5C :: q) ∧ s = q ++ r := by
  unfold readEscape at h
  split at h
  · simp [fail] at h
  · rename_i e s
    split at h
    · rename_i letter
      cases h
      exact ⟨[e], .letter letter, rfl⟩
    split at h
    · rename_i isUnit
      subst isUnit
      split at h
      · contradiction
      · rename_i n t unit
        obtain ⟨q, digits, rfl⟩ := unitText_of_hexUnit unit
        split at h
        · simp [fail] at h
        · rename_i notLow
          split at h
          · rename_i isHigh
            obtain ⟨low, q', second, isLow, same, char⟩ := unitText_of_readLowSurrogate h
            rw [char, same]
            refine ⟨_, .pair digits isHigh second isLow, ?_⟩
            simp only [List.cons_append, List.append_assoc]
          · rename_i notHigh
            cases h
            exact ⟨_, .unit digits (by simpa using notLow) (by simpa using notHigh), rfl⟩
    · simp [fail] at h

theorem Char.isPlain_of_next? {s r : Bytes} {b : UInt8} {c : Char} (plain : Json.IsPlain b)
    (read : Utf8.next? (b :: s) = some (c, r)) : IsPlain c := by
  have same := Utf8.encode_of_next? read
  have byte : c.toNat < 0x80 → b.toNat = c.toNat := by
    intro low
    rw [Utf8.encodeChar_ascii low] at same
    cases same
    exact Utf8.toNat_ofNat_add c.toNat 0 (by omega)
  constructor
  case notQuote =>
    rintro rfl
    exact plain.1 (UInt8.toNat_inj.mp (byte (by decide)))
  case notBackslash =>
    rintro rfl
    exact plain.2.1 (UInt8.toNat_inj.mp (byte (by decide)))
  case notControl =>
    refine Nat.not_lt.mp fun control => plain.2.2 (UInt8.lt_iff_toNat_lt.mpr ?_)
    rw [byte (by omega)]
    exact control

/-- Once a byte started no character, nothing makes the string good again. -/
theorem not_readStringFrom_broken {done : List Char} {rest s r : Bytes} {t : String} :
    readStringFrom done (some rest) s ≠ .ok (t, r) := by
  intro h
  generalize known : some rest = broken at h
  fun_induction readStringFrom done broken s with
  | case5 done broken s c r' escape _ _ ih => exact ih known h
  | case7 done broken b s _ _ _ c r' char _ ih => exact ih known h
  | case8 done broken b s _ _ _ _ ih =>
    subst known
    exact ih rfl h
  | _ => simp_all [fail]

theorem stringText_of_readStringFrom {done : List Char} {s r : Bytes} {t : String}
    (h : readStringFrom done none s = .ok (t, r)) :
    ∃ cs p, StringText cs p ∧ s = p ++ 0x22 :: r ∧ t = String.ofList (done.reverse ++ cs) := by
  generalize known : none = broken at h
  fun_induction readStringFrom done broken s with
  | case2 done s =>
    cases h
    exact ⟨[], [], .nil, rfl, by rw [List.append_nil]⟩
  | case5 done broken s c r' escape _ _ ih =>
    obtain ⟨cs, p, text, rfl, rfl⟩ := ih known h
    obtain ⟨q, char, rfl⟩ := charText_of_readEscape escape
    exact ⟨_, _, .cons char text, by simp, by simp⟩
  | case7 done broken b s notQuote notBackslash notControl c r' char _ ih =>
    obtain ⟨cs, p, text, rfl, rfl⟩ := ih known h
    have plain := Char.isPlain_of_next? ⟨notQuote, notBackslash, notControl⟩ char
    exact ⟨_, _, .cons (.plain plain) text, by rw [Utf8.encode_of_next? char]; simp, by simp⟩
  | case8 done broken b s _ _ _ _ ih =>
    subst known
    exact absurd h not_readStringFrom_broken
  | _ => simp_all [fail]

/-- The reader of strings accepts exactly the texts of characters, up to their closing quote. -/
theorem readString_iff {s r : Bytes} {t : String} :
    readString s = .ok (t, r) ↔ ∃ p, StringText t.toList p ∧ s = p ++ 0x22 :: r := by
  constructor
  · intro h
    obtain ⟨cs, p, text, same, rfl⟩ := stringText_of_readStringFrom h
    exact ⟨p, by simpa using text, same⟩
  · rintro ⟨p, text, rfl⟩
    simpa [readString] using text.readStringFrom [] r

end Fanout.Json
