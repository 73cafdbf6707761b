import Fanout.Json.Token
import Mathlib.Data.List.TakeWhile

/-! The grammar of numerals in JSON text, and that the scanner reads exactly its numerals, each as
far as what follows does not go on with it. -/

namespace Fanout.Json
open Text

def AllDigits (ds : Bytes) : Prop := ∀ d ∈ ds, isDigit d = true

inductive SignText : Bool → Bytes → Prop where
  | plus : SignText false []
  | minus : SignText true [0x2D]

inductive WholeText : Bytes → Prop where
  | zero : WholeText [0x30]
  | digits {d : UInt8} {ds : Bytes} : isDigit d = true → d ≠ 0x30 → AllDigits ds →
      WholeText (d :: ds)

inductive FractionText : Option Bytes → Bytes → Prop where
  | absent : FractionText none []
  | digits {ds : Bytes} : ds ≠ [] → AllDigits ds → FractionText (some ds) (0x2E :: ds)

inductive ExponentText : Option (Bool × Bytes) → Bytes → Prop where
  | absent : ExponentText none []
  | digits {e : UInt8} {negative : Bool} {sign ds : Bytes} : e = 0x65 ∨ e = 0x45 →
      (negative, sign) ∈ [(false, []), (false, [0x2B]), (true, [0x2D])] → ds ≠ [] → AllDigits ds →
      ExponentText (some (negative, ds)) (e :: (sign ++ ds))

/-- A numeral and a text that spells it. -/
inductive NumeralText : Numeral → Bytes → Prop where
  | parts {negative : Bool} {whole : Bytes} {fraction : Option Bytes}
      {exponent : Option (Bool × Bytes)} {sign point power : Bytes} :
      SignText negative sign → WholeText whole → FractionText fraction point →
      ExponentText exponent power →
      NumeralText ⟨negative, whole, fraction, exponent⟩ (sign ++ (whole ++ (point ++ power)))

/-- A byte goes on with a numeral if another digit or another part of it could start there. -/
def Numeral.Extends (n : Numeral) (b : UInt8) : Prop :=
  isDigit b = true ∨ (n.exponent = none ∧ (b = 0x65 ∨ b = 0x45)) ∨
    (n.exponent = none ∧ n.fraction = none ∧ b = 0x2E)

/-- What follows a numeral that ends there. -/
def Numeral.EndsBefore (n : Numeral) (t : Bytes) : Prop := ∀ b ∈ t.head?, ¬ n.Extends b

def NoDigit (t : Bytes) : Prop := ∀ b ∈ t.head?, isDigit b = false

theorem splitDigits_append {ds t : Bytes} (digits : AllDigits ds) (stop : NoDigit t) :
    splitDigits (ds ++ t) = (ds, t) := by
  simp only [splitDigits, Prod.mk.injEq]
  cases t with
  | nil =>
    simp only [List.append_nil]
    exact ⟨List.takeWhile_eq_self_iff.mpr digits, List.dropWhile_eq_nil_iff.mpr digits⟩
  | cons b t =>
    have stopped : isDigit b = false := stop b rfl
    rw [List.takeWhile_append_of_pos digits, List.dropWhile_append_of_pos digits]
    simp [stopped]

theorem splitDigits_spec (s : Bytes) :
    AllDigits (splitDigits s).1 ∧ NoDigit (splitDigits s).2 ∧
      s = (splitDigits s).1 ++ (splitDigits s).2 := by
  refine ⟨fun d member => List.mem_takeWhile_imp member, ?_, ?_⟩
  · intro b first
    have := List.head?_dropWhile_not isDigit s
    simp only [splitDigits, Option.mem_def] at first
    rw [first] at this
    simpa using this
  · exact (List.takeWhile_append_dropWhile ..).symm

theorem WholeText.head {ds : Bytes} (text : WholeText ds) :
    ∃ d r, ds = d :: r ∧ isDigit d = true := by
  cases text with
  | zero => exact ⟨_, _, rfl, by decide⟩
  | digits digit _ _ => exact ⟨_, _, rfl, digit⟩

theorem NumeralText.head {n : Numeral} {p : Bytes} (text : NumeralText n p) :
    ∃ b r, p = b :: r ∧ (b = 0x2D ∨ isDigit b = true) := by
  cases text with
  | parts sign whole _ _ =>
    obtain ⟨d, ds, rfl, digit⟩ := whole.head
    cases sign with
    | plus => exact ⟨_, _, rfl, .inr digit⟩
    | minus => exact ⟨_, _, rfl, .inl rfl⟩

theorem NumeralText.cons_of_append {n : Numeral} {b : UInt8} {s r p : Bytes}
    (text : NumeralText n p) (same : b :: s = p ++ r) : ∃ q, p = b :: q := by
  obtain ⟨c, q, rfl, _⟩ := text.head
  cases same
  exact ⟨q, rfl⟩

theorem not_digit_of_minus {b : UInt8} (digit : isDigit b = true) : b ≠ 0x2D := by
  rintro rfl
  contradiction

theorem splitSign_append {negative : Bool} {sign ds : Bytes} (text : SignText negative sign)
    (whole : WholeText ds) (t : Bytes) : splitSign (sign ++ (ds ++ t)) = (negative, ds ++ t) := by
  obtain ⟨d, r, rfl, digit⟩ := whole.head
  cases text with
  | minus => rfl
  | plus =>
    simp only [List.nil_append, List.cons_append, splitSign]
    split
    · simp_all [not_digit_of_minus digit]
    · rfl

theorem splitSign_spec (s : Bytes) :
    ∃ sign, SignText (splitSign s).1 sign ∧ s = sign ++ (splitSign s).2 := by
  unfold splitSign
  split
  · exact ⟨[0x2D], .minus, rfl⟩
  · exact ⟨[], .plus, rfl⟩

theorem wholePart_append {ds t : Bytes} (text : WholeText ds) (stop : NoDigit t) (atEnd : Cause) :
    wholePart atEnd (ds ++ t) = .ok (ds, t) := by
  cases text with
  | zero =>
    cases t with
    | nil => rfl
    | cons b t => simp [wholePart, stop b rfl]
  | digits digit notZero digits =>
    simp only [List.cons_append, wholePart, notZero, digit, if_true, if_false,
      splitDigits_append digits stop]

theorem wholePart_spec {atEnd : Cause} {s r ds : Bytes} (h : wholePart atEnd s = .ok (ds, r)) :
    WholeText ds ∧ NoDigit r ∧ s = ds ++ r := by
  unfold wholePart at h
  split at h
  · simp [fail] at h
  split at h
  · rename_i b t zero
    subst zero
    split at h
    · split at h
      · simp [fail] at h
      · rename_i c _ notDigit
        cases h
        refine ⟨.zero, ?_, rfl⟩
        intro d first
        cases first
        simpa using notDigit
    · cases h
      exact ⟨.zero, by simp [NoDigit], rfl⟩
  · split at h
    · rename_i b t notZero digit
      obtain ⟨digits, stop, same⟩ := splitDigits_spec t
      cases h
      exact ⟨.digits digit notZero digits, stop, by rw [List.cons_append, ← same]⟩
    · simp [fail] at h

theorem FractionText.fractionPart {fraction : Option Bytes} {point t : Bytes}
    (text : FractionText fraction point) (stop : NoDigit t)
    (noPoint : fraction = none → ∀ b ∈ t.head?, b ≠ 0x2E) (atEnd : Cause) :
    fractionPart atEnd (point ++ t) = .ok (fraction, t) := by
  cases text with
  | absent =>
    have noPoint := noPoint rfl
    simp only [List.nil_append, Json.fractionPart]
    split
    · exact absurd rfl (noPoint 0x2E rfl)
    · rfl
  | @digits ds some digits =>
    obtain ⟨d, ds, rfl⟩ := List.exists_cons_of_ne_nil some
    simp only [List.cons_append, Json.fractionPart]
    rw [← List.cons_append, splitDigits_append digits stop]

theorem fractionPart_spec {atEnd : Cause} {s r : Bytes} {fraction : Option Bytes}
    (h : fractionPart atEnd s = .ok (fraction, r)) (first : NoDigit s) :
    ∃ point, FractionText fraction point ∧ NoDigit r ∧
      (fraction = none → ∀ b ∈ r.head?, b ≠ 0x2E) ∧ s = point ++ r := by
  unfold fractionPart at h
  split at h
  · rename_i t
    obtain ⟨digits, stop, same⟩ := splitDigits_spec t
    split at h
    · simp [fail] at h
    · simp [fail] at h
    · rename_i ds r' empty noDigits split
      rw [split] at digits stop same
      cases h
      refine ⟨0x2E :: ds, .digits ?_ digits, stop, by simp, by rw [same]; rfl⟩
      rintro rfl
      cases r with
      | nil => exact empty rfl rfl
      | cons b r => exact noDigits b r rfl rfl
  · rename_i noPoint
    cases h
    refine ⟨[], .absent, first, fun _ b member same => ?_, rfl⟩
    cases s with
    | nil => simp at member
    | cons c s =>
      simp only [List.head?_cons, Option.mem_def, Option.some.injEq] at member
      exact noPoint s (by rw [member, same])

theorem exponentDigits_append {ds t : Bytes} (some : ds ≠ []) (digits : AllDigits ds)
    (stop : NoDigit t) (atEnd : Cause) (negative : Bool) :
    exponentDigits atEnd negative (ds ++ t) = .ok (Option.some (negative, ds), t) := by
  obtain ⟨d, ds, rfl⟩ := List.exists_cons_of_ne_nil some
  have digit := digits d List.mem_cons_self
  have rest : AllDigits ds := fun b member => digits b (List.mem_cons_of_mem d member)
  simp only [List.cons_append, exponentDigits, digit, if_true, splitDigits_append rest stop]

theorem exponentDigits_spec {atEnd : Cause} {negative : Bool} {s r : Bytes}
    {exponent : Option (Bool × Bytes)} (h : exponentDigits atEnd negative s = .ok (exponent, r)) :
    ∃ ds, exponent = some (negative, ds) ∧ ds ≠ [] ∧ AllDigits ds ∧ NoDigit r ∧ s = ds ++ r := by
  unfold exponentDigits at h
  split at h
  · simp [fail] at h
  · rename_i b t
    split at h
    · rename_i digit
      obtain ⟨digits, stop, same⟩ := splitDigits_spec t
      cases h
      refine ⟨_, rfl, by simp, ?_, stop, by rw [List.cons_append, ← same]⟩
      intro d member
      rcases List.mem_cons.mp member with rfl | member
      · exact digit
      · exact digits d member
    · simp [fail] at h

theorem ExponentText.exponentPart {exponent : Option (Bool × Bytes)} {power t : Bytes}
    (text : ExponentText exponent power) (stop : NoDigit t)
    (noMark : exponent = none → ∀ b ∈ t.head?, ¬ (b = 0x65 ∨ b = 0x45)) (atEnd : Cause) :
    exponentPart atEnd (power ++ t) = .ok (exponent, t) := by
  cases text with
  | absent =>
    cases t with
    | nil => rfl
    | cons b t => simp only [List.nil_append, Json.exponentPart, noMark rfl b rfl, if_false]
  | @digits e negative sign ds mark signed some digits =>
    simp only [List.cons_append, Json.exponentPart, mark, if_true]
    simp only [List.mem_cons, Prod.mk.injEq, List.not_mem_nil, or_false] at signed
    rcases signed with ⟨rfl, rfl⟩ | ⟨rfl, rfl⟩ | ⟨rfl, rfl⟩
    · obtain ⟨d, ds, rfl⟩ := List.exists_cons_of_ne_nil some
      have digit := digits d List.mem_cons_self
      have read := exponentDigits_append some digits stop atEnd false
      simp only [List.nil_append, List.cons_append] at read ⊢
      split
      · simp_all [isDigit]
      · simp_all [isDigit]
      · exact read
    · exact exponentDigits_append some digits stop atEnd false
    · exact exponentDigits_append some digits stop atEnd true

theorem exponentPart_spec {atEnd : Cause} {s r : Bytes} {exponent : Option (Bool × Bytes)}
    (h : exponentPart atEnd s = .ok (exponent, r)) (first : NoDigit s) :
    ∃ power, ExponentText exponent power ∧ NoDigit r ∧
      (exponent = none → r = s ∧ ∀ b ∈ r.head?, ¬ (b = 0x65 ∨ b = 0x45)) ∧ s = power ++ r := by
  unfold exponentPart at h
  split at h
  · cases h
    exact ⟨[], .absent, first, by simp, rfl⟩
  · rename_i e t
    split at h
    · rename_i mark
      split at h
      · obtain ⟨ds, rfl, some, digits, stop, rfl⟩ := exponentDigits_spec h
        exact ⟨_, @ExponentText.digits _ _ [0x2B] _ mark (by simp) some digits, stop, by simp, rfl⟩
      · obtain ⟨ds, rfl, some, digits, stop, rfl⟩ := exponentDigits_spec h
        exact ⟨_, @ExponentText.digits _ _ [0x2D] _ mark (by simp) some digits, stop, by simp, rfl⟩
      · obtain ⟨ds, rfl, some, digits, stop, rfl⟩ := exponentDigits_spec h
        exact ⟨_, @ExponentText.digits _ _ [] _ mark (by simp) some digits, stop, by simp, rfl⟩
    · rename_i noMark
      cases h
      refine ⟨[], .absent, first, fun _ => ⟨rfl, fun b member => ?_⟩, rfl⟩
      cases member
      exact noMark

theorem Numeral.EndsBefore.noDigit {n : Numeral} {t : Bytes} (ends : n.EndsBefore t) :
    NoDigit t := by
  intro b member
  have := ends b member
  simp only [Numeral.Extends, not_or] at this
  simpa using this.1

/-- Only the first byte of what follows counts. -/
theorem Numeral.EndsBefore.congr {n : Numeral} {t u : Bytes} (ends : n.EndsBefore t)
    (same : u.head? = t.head?) : n.EndsBefore u := by
  intro b member
  exact ends b (same ▸ member)

theorem FractionText.head {fraction : Option Bytes} {point t : Bytes}
    (text : FractionText fraction point) (stop : NoDigit t) : NoDigit (point ++ t) := by
  cases text with
  | absent => exact stop
  | digits some digits =>
    intro b member
    cases member
    decide

theorem ExponentText.head {exponent : Option (Bool × Bytes)} {power t : Bytes}
    (text : ExponentText exponent power) (stop : NoDigit t) :
    NoDigit (power ++ t) := by
  cases text with
  | absent => exact stop
  | digits mark signed some digits =>
    intro b member
    cases member
    rcases mark with rfl | rfl <;> decide

theorem NumeralText.numeral {n : Numeral} {p t : Bytes} (text : NumeralText n p)
    (ends : n.EndsBefore t) (atEnd : Cause) : numeral atEnd (p ++ t) = .ok (n, t) := by
  cases text with
  | @parts negative whole fraction exponent sign point power signText wholeText pointText
      powerText =>
    have stop := ends.noDigit
    have noMark : exponent = none → ∀ b ∈ t.head?, ¬ (b = 0x65 ∨ b = 0x45) := by
      intro none b member mark
      exact ends b member (.inr (.inl ⟨none, mark⟩))
    have noPoint : fraction = none → ∀ b ∈ (power ++ t).head?, b ≠ 0x2E := by
      intro none b member same
      cases powerText with
      | absent => exact ends b member (.inr (.inr ⟨rfl, none, same⟩))
      | digits mark signed some digits =>
        cases member
        subst same
        rcases mark with mark | mark <;> contradiction
    have rest := powerText.head stop
    simp only [Json.numeral, List.append_assoc, splitSign_append signText wholeText,
      wholePart_append wholeText (pointText.head rest), pointText.fractionPart rest noPoint,
      powerText.exponentPart stop noMark, bind, Except.bind, pure, Except.pure]

theorem numeral_spec {atEnd : Cause} {s r : Bytes} {n : Numeral}
    (h : numeral atEnd s = .ok (n, r)) :
    ∃ p, NumeralText n p ∧ n.EndsBefore r ∧ s = p ++ r := by
  obtain ⟨sign, signText, signSame⟩ := splitSign_spec s
  unfold numeral at h
  cases whole : wholePart atEnd (splitSign s).2 with
  | error f => simp [whole, bind, Except.bind] at h
  | ok w =>
    obtain ⟨w, t⟩ := w
    obtain ⟨wholeText, stop, wholeSame⟩ := wholePart_spec whole
    cases fraction : fractionPart atEnd t with
    | error f => simp [whole, fraction, bind, Except.bind] at h
    | ok f =>
      obtain ⟨f, u⟩ := f
      obtain ⟨point, pointText, stop, noPoint, pointSame⟩ := fractionPart_spec fraction stop
      cases exponent : exponentPart atEnd u with
      | error f => simp [whole, fraction, exponent, bind, Except.bind] at h
      | ok e =>
        obtain ⟨e, v⟩ := e
        obtain ⟨power, powerText, stop, noMark, powerSame⟩ := exponentPart_spec exponent stop
        simp only [whole, fraction, exponent, bind, Except.bind, pure, Except.pure,
          Except.ok.injEq, Prod.mk.injEq] at h
        obtain ⟨rfl, rfl⟩ := h
        refine ⟨_, .parts signText wholeText pointText powerText, ?_, ?_⟩
        · rintro b member (digit | ⟨none, mark⟩ | ⟨noExponent, noFraction, point⟩)
          · rw [stop b member] at digit
            contradiction
          · exact (noMark none).2 b member mark
          · exact noPoint noFraction b ((noMark noExponent).1 ▸ member) point
        · simp only [List.append_assoc, ← powerSame, ← pointSame, ← wholeSame, ← signSame]

end Fanout.Json
