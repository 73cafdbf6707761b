import Fanout.Proofs.Json.Number
import Fanout.Proofs.Json.StringText

/-! What a reader may refuse of a token that is passed over: a number that no floating point number
is near to, and half of a surrogate pair. Every other string that is passed over in a text is read,
up to the same place, and so is every other numeral. -/

namespace Fanout.Json
open Text

/-- The causes for which a reader stops inside a value that is passed over. -/
inductive Cause.IsLimit : Cause → Prop where
  | depth : IsLimit .nestedTooDeep
  | range : IsLimit .numberOutOfRange
  | lone : IsLimit .loneSurrogate
  | unfinished : IsLimit .unfinishedSurrogate

/-- The fault arose behind the first byte of `s`, and before any byte of `t` was looked at. -/
structure Fault.Inside (fault : Fault) (s t : Bytes) : Prop where
  after : t <:+ fault.rest
  before : fault.rest <:+ s
  moved : fault.rest.length < s.length

theorem Fault.Inside.of_suffix {fault : Fault} {s s' t t' : Bytes} (inside : fault.Inside s t)
    (front : s <:+ s') (back : t' <:+ t) : fault.Inside s' t' := by
  constructor
  case after => exact back.trans inside.after
  case before => exact inside.before.trans front
  case moved => exact Nat.lt_of_lt_of_le inside.moved front.length_le

/-- A limit that is reached behind the front of `s`. -/
structure Fault.Limits (fault : Fault) (s t : Bytes) : Prop extends fault.Inside s t where
  limit : fault.cause.IsLimit
  own : fault.within = none

theorem Fault.Limits.of_suffix {fault : Fault} {s s' t t' : Bytes} (limits : fault.Limits s t)
    (front : s <:+ s') (back : t' <:+ t) : fault.Limits s' t' :=
  ⟨limits.toInside.of_suffix front back, limits.limit, limits.own⟩

theorem limits_of_suffix {cause : Cause} {b : UInt8} {s r t : Bytes} (limit : cause.IsLimit)
    (back : t <:+ r) (front : r <:+ s) : Fault.Limits ⟨cause, r, none⟩ (b :: s) t := by
  have short := front.length_le
  refine ⟨⟨back, front.trans (List.suffix_cons b s), ?_⟩, limit, rfl⟩
  simp only [List.length_cons]
  omega

/-! ## Strings -/

theorem hexValue?_ascii {b : UInt8} {n : Nat} (value : hexValue? b = some n) : b < 0x80 := by
  rw [UInt8.lt_iff_toNat_lt]
  unfold hexValue? at value
  simp only [isDigit, Bool.and_eq_true, decide_eq_true_eq, UInt8.le_iff_toNat_le] at value
  repeat' split at value
  all_goals simp_all
  all_goals omega

/-- At least the closing quote was passed over. -/
theorem suffix_of_skipString {s r : Bytes} (h : skipString s = .ok r) : r <:+ s.tail := by
  obtain ⟨p, _, rfl⟩ := skippedText_of_skipString h
  cases p with
  | nil => exact List.suffix_refl r
  | cons c p => exact (List.suffix_cons 0x22 r).trans (List.suffix_append p _)

/-- An escape that is passed over, by its form. -/
theorem skipString_escape {s r : Bytes} (h : skipString (0x5C :: s) = .ok r) :
    (∃ e s', s = e :: s' ∧ isSimpleEscape e = true ∧ skipString s' = .ok r) ∨
      ∃ n q s', UnitText n q ∧ s = 0x75 :: (q ++ s') ∧ skipString s' = .ok r := by
  obtain ⟨p, text, same⟩ := skippedText_of_skipString h
  cases text with
  | nil => cases same
  | plain plain =>
    cases same
    exact absurd rfl plain.2.1
  | letter simple rest =>
    cases same
    exact .inl ⟨_, _, rfl, simple, rest.skipString r⟩
  | @unit n q p digits rest =>
    cases same
    exact .inr ⟨n, q, _, digits, by simp, rest.skipString r⟩

theorem isText_of_ascii {p s : Bytes} (ascii : ∀ b ∈ p, b < 0x80) (text : Utf8.IsText (p ++ s)) :
    Utf8.IsText s := by
  induction p with
  | nil => exact text
  | cons b p ih =>
    have rest := (Utf8.IsText.split (p := []) (ascii b List.mem_cons_self) text).2
    exact ih (fun c member => ascii c (List.mem_cons_of_mem b member)) rest

theorem UnitText.ascii {n : Nat} {q : Bytes} (digits : UnitText n q) : ∀ b ∈ q, b < 0x80 := by
  cases digits with
  | digits a b c d =>
    intro e member
    simp only [List.mem_cons, List.not_mem_nil, or_false] at member
    rcases member with rfl | rfl | rfl | rfl
    · exact hexValue?_ascii a
    · exact hexValue?_ascii b
    · exact hexValue?_ascii c
    · exact hexValue?_ascii d

theorem UnitText.isText {n : Nat} {q s : Bytes} (digits : UnitText n q)
    (text : Utf8.IsText (0x75 :: (q ++ s))) : Utf8.IsText s :=
  isText_of_ascii digits.ascii (isText_of_ascii (p := [0x75]) (by simp) text)

theorem isText_of_simple {e : UInt8} {s : Bytes} (simple : isSimpleEscape e = true)
    (text : Utf8.IsText (e :: s)) : Utf8.IsText s := by
  refine isText_of_ascii (p := [e]) ?_ text
  simp only [isSimpleEscape, Bool.or_eq_true, beq_iff_eq] at simple
  simp only [List.mem_singleton, forall_eq]
  rcases simple with ((((((rfl | rfl) | rfl) | rfl) | rfl) | rfl) | rfl) | rfl
  all_goals decide

/-- A character was read from `s`, of which the string up to `r` goes on as a text, or a limit was
reached. -/
def Continues (x : Except Fault (Char × Bytes)) (s r : Bytes) : Prop :=
  (∃ c u, x = .ok (c, u) ∧ Utf8.IsText u ∧ skipString u = .ok r ∧ u <:+ s) ∨
    ∃ fault, x = .error fault ∧ fault.Limits s r

theorem continues_readLowSurrogate {high : Nat} {s r : Bytes} (text : Utf8.IsText s)
    (scan : skipString s = .ok r) : Continues (readLowSurrogate high s) s r := by
  cases s with
  | nil => simp [skipString, fail] at scan
  | cons b s =>
    by_cases escape : b = 0x5C
    · subst escape
      have text := isText_of_ascii (p := [0x5C]) (by simp) text
      rcases skipString_escape scan with ⟨e, u, rfl, simple, behind⟩ |
        ⟨n, q, u, digits, rfl, behind⟩
      · have notUnit : e ≠ 0x75 := by
          rintro rfl
          contradiction
        have fault : readLowSurrogate high (0x5C :: e :: u) = fail .unfinishedSurrogate u := by
          simp [readLowSurrogate, notUnit]
        have back := (suffix_of_skipString behind).trans (List.tail_suffix u)
        exact .inr ⟨_, fault, limits_of_suffix .unfinished back (List.suffix_cons e u)⟩
      · have front : u <:+ 0x75 :: (q ++ u) :=
          (List.suffix_append q u).trans (List.suffix_cons 0x75 _)
        cases isLow : isLowSurrogate n with
        | true =>
          have read := @readLowSurrogate_unit high _ _ digits isLow u
          have front := front.trans (List.suffix_cons 0x5C _)
          exact .inl ⟨_, u, read, digits.isText text, behind, front⟩
        | false =>
          have fault : readLowSurrogate high (0x5C :: 0x75 :: (q ++ u)) =
              fail .loneSurrogate u := by
            simp [readLowSurrogate, digits.hexUnit, isLow]
          have back := (suffix_of_skipString behind).trans (List.tail_suffix u)
          exact .inr ⟨_, fault, limits_of_suffix .lone back front⟩
    · have fault : readLowSurrogate high (b :: s) = fail .unfinishedSurrogate s := by
        simp [readLowSurrogate, escape]
      have back : r <:+ s := suffix_of_skipString scan
      exact .inr ⟨_, fault, limits_of_suffix .unfinished back (List.suffix_refl s)⟩

theorem continues_readEscape {s r : Bytes} (text : Utf8.IsText s)
    (scan : skipString (0x5C :: s) = .ok r) : Continues (readEscape s) s r := by
  rcases skipString_escape scan with ⟨e, u, rfl, simple, behind⟩ |
    ⟨n, q, u, digits, rfl, behind⟩
  · obtain ⟨c, escape⟩ := Option.isSome_iff_exists.mp (isSimpleEscape_iff ▸ simple)
    exact .inl ⟨c, u, readEscape_simple escape u, isText_of_simple simple text, behind,
      List.suffix_cons e u⟩
  · have rest := digits.isText text
    have front : u <:+ q ++ u := List.suffix_append q u
    have back := (suffix_of_skipString behind).trans (List.tail_suffix u)
    cases isLow : isLowSurrogate n with
    | true =>
      exact .inr ⟨_, readEscape_low digits isLow u, limits_of_suffix .lone back front⟩
    | false =>
      have front := front.trans (List.suffix_cons 0x75 _)
      have read := readEscape_unit digits isLow u
      cases isHigh : isHighSurrogate n with
      | true =>
        rw [isHigh, if_pos rfl] at read
        rw [read]
        rcases @continues_readLowSurrogate n u r rest behind with
          ⟨c, v, low, isText, scan, suffix⟩ | ⟨fault, low, limits⟩
        · exact .inl ⟨c, v, low, isText, scan, suffix.trans front⟩
        · exact .inr ⟨fault, low, limits.of_suffix front (List.suffix_refl r)⟩
      | false =>
        rw [isHigh, if_neg (by decide)] at read
        exact .inl ⟨_, u, read, rest, behind, front⟩

/-- A token at the front of `s` was read up to `r`, or a limit was reached in it. -/
def Agrees {α : Type} (x : Except Fault (α × Bytes)) (s r : Bytes) : Prop :=
  (∃ a, x = .ok (a, r)) ∨ ∃ fault, x = .error fault ∧ fault.Limits s r

theorem agrees_readStringFrom {done : List Char} {s r : Bytes} (text : Utf8.IsText s)
    (scan : skipString s = .ok r) : Agrees (readStringFrom done none s) s r := by
  generalize unbroken : none = broken
  fun_induction readStringFrom done broken s with
  | case1 => simp [skipString, fail] at scan
  | case2 done s =>
    rw [skipString_close] at scan
    cases scan
    exact .inl ⟨_, rfl⟩
  | case3 => contradiction
  | case4 done broken s fault escape =>
    have text := isText_of_ascii (p := [0x5C]) (by simp) text
    rcases continues_readEscape text scan with ⟨c, u, read, _⟩ | ⟨fault', read, limits⟩
    · cases escape.symm.trans read
    · cases escape.symm.trans read
      exact .inr ⟨fault, rfl, limits.of_suffix (List.suffix_cons _ s) (List.suffix_refl r)⟩
  | case5 done broken s c u escape _ _ ih =>
    have text := isText_of_ascii (p := [0x5C]) (by simp) text
    rcases continues_readEscape text scan with ⟨c', u', read, isText, scan, suffix⟩ |
      ⟨fault, read, _⟩
    · cases escape.symm.trans read
      rcases ih isText scan unbroken with read | ⟨fault, read, limits⟩
      · exact .inl read
      · have front := suffix.trans (List.suffix_cons 0x5C s)
        exact .inr ⟨fault, read, limits.of_suffix front (List.suffix_refl r)⟩
    · cases escape.symm.trans read
  | case6 done broken b s notQuote notBackslash control =>
    rw [skipString.eq_def] at scan
    simp [notQuote, notBackslash, control, fail] at scan
  | case7 done broken b s notQuote notBackslash notControl c u char _ ih =>
    have plain := Char.isPlain_of_next? ⟨notQuote, notBackslash, notControl⟩ char
    obtain ⟨c', u', read, isText⟩ := text.next?
    cases char.symm.trans read
    have same := Utf8.encode_of_next? char
    rw [same, skipString_plains fun _ member => plain.bytes member] at scan
    rcases ih isText scan unbroken with read | ⟨fault, read, limits⟩
    · exact .inl read
    · refine .inr ⟨fault, read, limits.of_suffix ?_ (List.suffix_refl r)⟩
      rw [same]
      exact List.suffix_append _ u
  | case8 done broken b s _ _ _ none =>
    obtain ⟨c, u, read, _⟩ := text.next?
    cases none.symm.trans read

theorem agrees_readString {s r : Bytes} (text : Utf8.IsText s) (scan : skipString s = .ok r) :
    Agrees (readString s) s r :=
  agrees_readStringFrom text scan

/-! ## Numerals -/

theorem suffix_of_exponentOverflow? {exponent : Nat} {ds left : Bytes}
    (h : exponentOverflow? exponent ds = some left) : left <:+ ds := by
  induction ds generalizing exponent with
  | nil => contradiction
  | cons d ds ih =>
    simp only [exponentOverflow?] at h
    split at h
    · exact (ih h).trans (List.suffix_cons d _)
    · cases h
      exact List.suffix_cons d _

/-- Where a number is out of range, nothing of its numeral is left but digits of the exponent. -/
theorem Numeral.value_cases (n : Numeral) (t : Bytes) : (∃ x, n.value t = .ok x) ∨
    ∃ left, n.value t = fail .numberOutOfRange (left ++ t) ∧
      (left = [] ∨ ∃ shrinks ds, n.exponent = some (shrinks, ds) ∧ left <:+ ds) := by
  unfold Numeral.value
  simp only
  split
  · left
    split
    · exact ⟨_, rfl⟩
    · split <;> exact ⟨_, rfl⟩
  · split
    · split
      · exact .inl ⟨_, rfl⟩
      · exact .inr ⟨[], rfl, .inl rfl⟩
    · rename_i shrinks ds present
      split
      · rename_i left overflow
        split
        · have digits := suffix_of_exponentOverflow? overflow
          exact .inr ⟨left, rfl, .inr ⟨shrinks, ds, present, digits⟩⟩
        · exact .inl ⟨_, rfl⟩
      · split
        · exact .inl ⟨_, rfl⟩
        · exact .inr ⟨[], rfl, .inl rfl⟩

/-- The digits of an exponent are not the whole of a numeral. -/
theorem NumeralText.suffix {n : Numeral} {p ds : Bytes} {shrinks : Bool} (text : NumeralText n p)
    (present : n.exponent = some (shrinks, ds)) : ∃ b q, p = b :: q ∧ ds <:+ q := by
  cases text with
  | @parts negative whole fraction exponent sign point power _ wholeText _ powerText =>
    obtain rfl : exponent = some (shrinks, ds) := present
    cases powerText with
    | @digits e _ mark _ _ _ _ _ =>
      have front : ds <:+ point ++ e :: (mark ++ ds) :=
        (List.suffix_append mark ds).trans
          ((List.suffix_cons e _).trans (List.suffix_append point _))
      obtain ⟨d, r, rfl, _⟩ := wholeText.head
      cases sign with
      | nil => exact ⟨d, _, rfl, front.trans (List.suffix_append r _)⟩
      | cons b sign =>
        have whole := front.trans (List.suffix_append (d :: r) _)
        exact ⟨b, _, rfl, whole.trans (List.suffix_append sign _)⟩

theorem agrees_readNumber {s r : Bytes} {n : Numeral}
    (read : numeral .invalidNumber s = .ok (n, r)) : Agrees (readNumber s) s r := by
  obtain ⟨p, text, ends, rfl⟩ := numeral_spec read
  rw [text.readNumber ends]
  rcases n.value_cases r with ⟨x, value⟩ | ⟨left, value, part⟩
  · exact .inl ⟨x, by rw [value]; rfl⟩
  · have back := List.suffix_append left r
    refine .inr ⟨⟨.numberOutOfRange, left ++ r, none⟩, by rw [value]; rfl, ?_⟩
    rcases part with rfl | ⟨shrinks, ds, present, suffix⟩
    · obtain ⟨b, q, rfl, _⟩ := text.head
      exact limits_of_suffix .range back (List.suffix_append q r)
    · obtain ⟨b, q, rfl, digits⟩ := text.suffix present
      obtain ⟨front, same⟩ := suffix.trans digits
      have front : left ++ r <:+ q ++ r := ⟨front, by rw [← List.append_assoc, same]⟩
      exact limits_of_suffix .range back front

end Fanout.Json
