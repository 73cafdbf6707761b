import Fanout.Json.Number
import Fanout.Proofs.Decimal.Shortest
import Fanout.Proofs.Json.Numeral
import Fanout.Proofs.Text.Utf8

/-! Integers and finite floating point numbers are written as numerals. For the latter the digits
must not start with a zero, which is where the search for them enters. -/

namespace Fanout.Json
open Text Decimal

/-- A numeral without a sign. -/
inductive Unsigned : Bytes → Prop where
  | parts {whole point power : Bytes} {fraction : Option Bytes}
      {exponent : Option (Bool × Bytes)} : WholeText whole → FractionText fraction point →
      ExponentText exponent power → Unsigned (whole ++ (point ++ power))

/-- The text of some numeral. -/
def IsNumeral (p : Bytes) : Prop := ∃ n, NumeralText n p

theorem Unsigned.isNumeral {p : Bytes} (unsigned : Unsigned p) : IsNumeral p := by
  obtain ⟨whole, point, power⟩ := unsigned
  exact ⟨_, .parts .plus whole point power⟩

theorem Unsigned.negated {p : Bytes} (unsigned : Unsigned p) : IsNumeral (0x2D :: p) := by
  obtain ⟨whole, point, power⟩ := unsigned
  exact ⟨_, .parts .minus whole point power⟩

theorem WholeText.unsigned {ds : Bytes} (whole : WholeText ds) : Unsigned ds := by
  simpa using Unsigned.parts whole .absent .absent

theorem AllDigits.append {ds es : Bytes} (left : AllDigits ds) (right : AllDigits es) :
    AllDigits (ds ++ es) := by
  intro d member
  rcases List.mem_append.mp member with member | member
  · exact left d member
  · exact right d member

theorem AllDigits.cons {d : UInt8} {ds : Bytes} (digit : isDigit d = true) (rest : AllDigits ds) :
    AllDigits (d :: ds) := by
  intro e member
  rcases List.mem_cons.mp member with rfl | member
  · exact digit
  · exact rest e member

theorem allDigits_zeros (n : Nat) : AllDigits (List.replicate n 0x30) := by
  intro d member
  rw [List.eq_of_mem_replicate member]
  decide

theorem isText_digits {ds : Bytes} (digits : AllDigits ds) : Utf8.IsText ds := by
  refine Utf8.isText_ascii (List.all_eq_true.mpr fun d member => decide_eq_true ?_)
  have digit := digits d member
  simp only [isDigit, Bool.and_eq_true, decide_eq_true_eq, UInt8.le_iff_toNat_le,
    UInt8.reduceToNat] at digit
  rw [UInt8.lt_iff_toNat_lt]
  exact Nat.lt_of_le_of_lt digit.2 (by decide)

theorem WholeText.allDigits {ds : Bytes} (whole : WholeText ds) : AllDigits ds := by
  cases whole with
  | zero => exact allDigits_zeros 1
  | digits digit _ rest => exact rest.cons digit

theorem WholeText.ne_nil {ds : Bytes} (whole : WholeText ds) : ds ≠ [] := by
  cases whole <;> simp

theorem NumeralText.isText {n : Numeral} {p : Bytes} (text : NumeralText n p) :
    Utf8.IsText p := by
  obtain ⟨sign, whole, point, power⟩ := text
  refine .append ?_ ((isText_digits whole.allDigits).append (.append ?_ ?_))
  · cases sign <;> exact Utf8.isText_ascii (by decide)
  · cases point with
    | absent => exact Utf8.isText_nil
    | digits _ digits => exact (isText_digits digits).cons (by decide)
  · cases power with
    | absent => exact Utf8.isText_nil
    | digits mark signed _ digits =>
      refine .cons ?_ (.append ?_ (isText_digits digits))
      · rcases mark with rfl | rfl <;> decide
      · simp only [List.mem_cons, Prod.mk.injEq, List.not_mem_nil, or_false] at signed
        rcases signed with ⟨_, rfl⟩ | ⟨_, rfl⟩ | ⟨_, rfl⟩
        all_goals exact Utf8.isText_ascii (by decide)

theorem NumeralText.readNumber {n : Numeral} {p t : Bytes} (text : NumeralText n p)
    (ends : n.EndsBefore t) : readNumber (p ++ t) = (n.value t).map (·, t) := by
  simp only [Json.readNumber, text.numeral ends .valueEnds, bind, Except.bind]
  cases n.value t <;> rfl

/-! ## Digits -/

theorem toNat_digit (n : Nat) : (digit n).toNat = 0x30 + n % 10 := by
  rw [digit, UInt8.toNat_ofNat']
  omega

theorem isDigit_digit (n : Nat) : isDigit (digit n) = true := by
  simp only [isDigit, Bool.and_eq_true, decide_eq_true_eq, UInt8.le_iff_toNat_le, toNat_digit,
    UInt8.reduceToNat]
  omega

theorem digit_ne_zero {n : Nat} (notZero : n % 10 ≠ 0) : digit n ≠ 0x30 := by
  intro same
  have := toNat_digit n
  rw [same] at this
  simp only [UInt8.reduceToNat] at this
  omega

/-- Digits of which the first is not a zero. -/
inductive Leading : Bytes → Prop where
  | digits {d : UInt8} {ds : Bytes} : isDigit d = true → d ≠ 0x30 → AllDigits ds →
      Leading (d :: ds)

theorem Leading.whole {ds : Bytes} (leading : Leading ds) : WholeText ds := by
  obtain ⟨digit, notZero, rest⟩ := leading
  exact .digits digit notZero rest

theorem Leading.allDigits {ds : Bytes} (leading : Leading ds) : AllDigits ds := by
  obtain ⟨digit, _, rest⟩ := leading
  exact rest.cons digit

theorem Leading.ne_nil {ds : Bytes} (leading : Leading ds) : ds ≠ [] := by
  cases leading
  simp

theorem Leading.append {ds es : Bytes} (leading : Leading ds) (digits : AllDigits es) :
    Leading (ds ++ es) := by
  obtain ⟨digit, notZero, rest⟩ := leading
  exact .digits digit notZero (rest.append digits)

theorem leading_digits {n : Nat} (positive : 0 < n) : Leading (digits n) := by
  fun_induction digits n with
  | case1 n small =>
    refine .digits (isDigit_digit n) (digit_ne_zero ?_) (by simp [AllDigits])
    omega
  | case2 n large ih =>
    refine (ih (by omega)).append ?_
    exact AllDigits.cons (isDigit_digit n) (by simp [AllDigits])

theorem wholeText_digits (n : Nat) : WholeText (digits n) := by
  rcases Nat.eq_zero_or_pos n with rfl | positive
  · rw [digits]
    exact .zero
  · exact (leading_digits positive).whole

theorem isNumeral_integer (i : Int) : IsNumeral (Decimal.integer i) := by
  cases i with
  | ofNat n => exact (wholeText_digits n).unsigned.isNumeral
  | negSucc n => exact (wholeText_digits (n + 1)).unsigned.negated

/-! ## Points and exponents -/

theorem unsigned_positional {ds : Bytes} (leading : Leading ds) (place : Int) :
    Unsigned (positional ds place) := by
  cases place with
  | ofNat n =>
    simp only [positional]
    split
    · have padded := leading.append (allDigits_zeros (n + 1 - ds.length))
      have zero := @FractionText.digits [0x30] (by simp) (allDigits_zeros 1)
      simpa using Unsigned.parts padded.whole zero .absent
    · rename_i long
      have behind : ds.drop (n + 1) ≠ [] := by
        simp only [ne_eq, List.drop_eq_nil_iff]
        exact long
      have digits : AllDigits (ds.drop (n + 1)) :=
        fun d member => leading.allDigits d (List.mem_of_mem_drop member)
      have before : Leading (ds.take (n + 1)) := by
        obtain ⟨digit, notZero, rest⟩ := leading
        exact .digits digit notZero fun d member => rest d (List.mem_of_mem_take member)
      simpa using Unsigned.parts before.whole (.digits behind digits) .absent
  | negSucc n =>
    have digits := (allDigits_zeros n).append leading.allDigits
    have behind : List.replicate n 0x30 ++ ds ≠ [] := by simp [leading.ne_nil]
    simpa [positional] using Unsigned.parts .zero (.digits behind digits) .absent

theorem unsigned_scientific {ds : Bytes} (leading : Leading ds) (place : Int) :
    Unsigned (scientific ds place) := by
  obtain ⟨negative, sign, signed, written⟩ : ∃ (negative : Bool) (sign : Bytes),
      (negative, sign) ∈ [(false, []), (false, [0x2B]), (true, [0x2D])] ∧
        (if place < 0 then [0x2D] else [0x2B]) = sign := by
    split
    · exact ⟨true, [0x2D], by simp, rfl⟩
    · exact ⟨false, [0x2B], by simp, rfl⟩
  have exponent := wholeText_digits place.natAbs
  have power := ExponentText.digits (e := 0x65) (.inl rfl) signed exponent.ne_nil
    exponent.allDigits
  cases leading with
  | @digits d ds digit notZero rest =>
    have first := @WholeText.digits d [] digit notZero (by simp [AllDigits])
    simp only [scientific, written]
    cases ds with
    | nil => simpa using Unsigned.parts first .absent power
    | cons e r => simpa using Unsigned.parts first (.digits (by simp) rest) power

theorem unsigned_magnitude (layout : Layout) {m : Magnitude} (representable : m.Representable) :
    Unsigned (layout.magnitude m) := by
  unfold Layout.magnitude
  split
  · exact .parts .zero (@FractionText.digits [0x30] (by simp) (allDigits_zeros 1)) .absent
  · rename_i notZero
    have leading := leading_digits (Magnitude.shortest_pos representable notZero)
    simp only
    split
    · exact unsigned_positional leading _
    · exact unsigned_scientific leading _

theorem isNumeral_of_write? {layout : Layout} {x : Binary} {p : Bytes} (finite : x.Representable)
    (written : layout.write? x = some p) : IsNumeral p := by
  cases x with
  | infinite | notANumber => contradiction
  | finite negative m =>
    have unsigned := unsigned_magnitude layout (finite negative m rfl)
    simp only [Layout.write?, Option.some.injEq] at written
    subst written
    split
    · exact unsigned.negated
    · exact unsigned.isNumeral

end Fanout.Json
