import Fanout.Proofs.Json.Grammar

/-! Texts that differ in their blanks alone. Tokens have no control characters, so that only blanks
change where the control characters of a text do. -/

namespace Fanout.Json
open Text

/-- Two texts of the same phrase, token for token, with other blanks between the tokens. -/
inductive Respaced : Phrase → Bytes → Bytes → Prop where
  | word {b : UInt8} {word : Bytes} : (b, word) ∈ words → Respaced .value (b :: word) (b :: word)
  | numeral {n : Numeral} {p : Bytes} : NumeralText n p → Respaced .value p p
  | string {p : Bytes} : SkippedText p →
      Respaced .value (0x22 :: (p ++ [0x22])) (0x22 :: (p ++ [0x22]))
  | bracketed {bracket : Bracket} {p q : Bytes} : Respaced (.rest bracket .first) p q →
      Respaced .value (bracket.opening :: p) (bracket.opening :: q)
  | item {w u v v' : Bytes} : Blank w → Blank u → Respaced .value v v' →
      Respaced (.entry .list) (w ++ v) (u ++ v')
  | member {w k w' w'' u u' u'' v v' : Bytes} : Blank w → Blank w' → Blank w'' → Blank u →
      Blank u' → Blank u'' → SkippedText k → Respaced .value v v' →
      Respaced (.entry .object) (w ++ 0x22 :: (k ++ 0x22 :: (w' ++ 0x3A :: (w'' ++ v))))
        (u ++ 0x22 :: (k ++ 0x22 :: (u' ++ 0x3A :: (u'' ++ v'))))
  | close {bracket : Bracket} {turn : Turn} {w u : Bytes} : Blank w → Blank u →
      Respaced (.rest bracket turn) (w ++ [bracket.close]) (u ++ [bracket.close])
  | first {bracket : Bracket} {p q p' q' : Bytes} : Respaced (.entry bracket) p p' →
      Respaced (.rest bracket .later) q q' → Respaced (.rest bracket .first) (p ++ q) (p' ++ q')
  | later {bracket : Bracket} {w u p q p' q' : Bytes} : Blank w → Blank u →
      Respaced (.entry bracket) p p' → Respaced (.rest bracket .later) q q' →
      Respaced (.rest bracket .later) (w ++ 0x2C :: (p ++ q)) (u ++ 0x2C :: (p' ++ q'))

/-! ## Control characters -/

/-- There is no control character in a text. -/
def Printed (p : Bytes) : Prop := ∀ b ∈ p, ¬ b < 0x20

theorem printed_of_all {p : Bytes} (all : p.all (fun b => !decide (b < 0x20)) = true) : Printed p :=
  fun b member => by simpa using List.all_eq_true.mp all b member

theorem Printed.append {p q : Bytes} (left : Printed p) (right : Printed q) : Printed (p ++ q) := by
  intro b member
  rcases List.mem_append.mp member with member | member
  · exact left b member
  · exact right b member

theorem Printed.cons {b : UInt8} {p : Bytes} (first : ¬ b < 0x20) (rest : Printed p) :
    Printed (b :: p) := by
  intro c member
  rcases List.mem_cons.mp member with rfl | member
  · exact first
  · exact rest c member

theorem printed_digits {ds : Bytes} (digits : AllDigits ds) : Printed ds := by
  intro d member
  exact (isPlain_of_isDigit (digits d member)).2.2

theorem printed_word {b : UInt8} {word : Bytes} (isWord : (b, word) ∈ words) :
    Printed (b :: word) := by
  simp only [words, List.mem_cons, Prod.mk.injEq, List.not_mem_nil, or_false] at isWord
  rcases isWord with ⟨rfl, rfl⟩ | ⟨rfl, rfl⟩ | ⟨rfl, rfl⟩ <;> exact printed_of_all rfl

theorem NumeralText.printed {n : Numeral} {p : Bytes} (text : NumeralText n p) : Printed p := by
  obtain ⟨sign, whole, point, power⟩ := text
  refine .append ?_ ((printed_digits whole.allDigits).append (.append ?_ ?_))
  · cases sign <;> exact printed_of_all rfl
  · cases point with
    | absent => exact printed_digits fun _ member => absurd member List.not_mem_nil
    | digits _ digits => exact (printed_digits digits).cons (by decide)
  · cases power with
    | absent => exact printed_digits fun _ member => absurd member List.not_mem_nil
    | digits mark signed _ digits =>
      refine .cons ?_ (.append ?_ (printed_digits digits))
      · rcases mark with rfl | rfl <;> decide
      · simp only [List.mem_cons, Prod.mk.injEq, List.not_mem_nil, or_false] at signed
        rcases signed with ⟨_, rfl⟩ | ⟨_, rfl⟩ | ⟨_, rfl⟩ <;> exact printed_of_all rfl

theorem hexValue?_printed {b : UInt8} {n : Nat} (digit : hexValue? b = some n) : ¬ b < 0x20 := by
  intro control
  have below (c : UInt8) (upper : 0x20 ≤ c) : ¬ c ≤ b := fun above =>
    UInt8.not_lt.mpr (UInt8.le_trans upper above) control
  simp only [hexValue?, isDigit, below 0x30 (by decide), below 0x61 (by decide),
    below 0x41 (by decide), decide_false, Bool.false_and, Bool.false_eq_true, false_and,
    if_false] at digit
  contradiction

theorem isSimpleEscape_printed {e : UInt8} (simple : isSimpleEscape e = true) : ¬ e < 0x20 := by
  simp only [isSimpleEscape, Bool.or_eq_true, beq_iff_eq, or_assoc] at simple
  rcases simple with rfl | rfl | rfl | rfl | rfl | rfl | rfl | rfl <;> decide

theorem SkippedText.printed {p : Bytes} (text : SkippedText p) : Printed p := by
  induction text with
  | nil => exact printed_digits fun _ member => absurd member List.not_mem_nil
  | plain plain _ ih => exact ih.cons plain.2.2
  | letter simple _ ih => exact (ih.cons (isSimpleEscape_printed simple)).cons (by decide)
  | @unit n q p unit _ ih =>
    have digits : Printed q := by
      obtain ⟨a, b, c, d⟩ := unit
      refine .cons (hexValue?_printed a) (.cons (hexValue?_printed b) ?_)
      refine .cons (hexValue?_printed c) (.cons (hexValue?_printed d) ?_)
      exact fun _ member => absurd member List.not_mem_nil
    exact ((digits.append ih).cons (by decide)).cons (by decide)

/-! ## Changing blanks -/

section Changes

/-- A change of bytes that makes other blanks of blanks and leaves everything but control characters
as it is. -/
structure ChangesBlanks (f : UInt8 → UInt8) : Prop where
  blank : ∀ b ∈ ([0x20, 0x09, 0x0A, 0x0D] : Bytes), f b ∈ ([0x20, 0x09, 0x0A, 0x0D] : Bytes)
  printed : ∀ b, ¬ b < 0x20 → f b = b

variable {f : UInt8 → UInt8} (changes : ChangesBlanks f)
include changes

theorem ChangesBlanks.map_printed {p : Bytes} (printed : Printed p) : p.map f = p :=
  (List.map_congr_left fun b member => changes.printed b (printed b member)).trans (List.map_id _)

theorem ChangesBlanks.map_blank {w : Bytes} (blank : Blank w) : Blank (w.map f) := by
  intro b member
  obtain ⟨c, inside, rfl⟩ := List.mem_map.mp member
  exact changes.blank c (blank c inside)

/-- The text is the same, token for token, after a change of blanks. -/
theorem Spells.respaced {phrase : Phrase} {p : Bytes} (text : Spells phrase p) :
    Respaced phrase p (p.map f) := by
  have opening (bracket : Bracket) : f bracket.opening = bracket.opening := by
    cases bracket <;> exact changes.printed _ (by decide)
  have closing (bracket : Bracket) : f bracket.close = bracket.close := by
    cases bracket <;> exact changes.printed _ (by decide)
  have quote : f 0x22 = 0x22 := changes.printed _ (by decide)
  have colon : f 0x3A = 0x3A := changes.printed _ (by decide)
  have comma : f 0x2C = 0x2C := changes.printed _ (by decide)
  induction text with
  | word isWord =>
    rw [changes.map_printed (printed_word isWord)]
    exact .word isWord
  | numeral text =>
    rw [changes.map_printed text.printed]
    exact .numeral text
  | string text =>
    rw [List.map_cons, List.map_append, changes.map_printed text.printed, List.map_singleton, quote]
    exact .string text
  | @bracketed bracket p _ ih =>
    rw [List.map_cons, opening]
    exact .bracketed ih
  | item blank _ ih =>
    rw [List.map_append]
    exact .item blank (changes.map_blank blank) ih
  | member before key between after _ ih =>
    simp only [List.map_append, List.map_cons, quote, colon, changes.map_printed key.printed]
    exact .member before between after (changes.map_blank before) (changes.map_blank between)
      (changes.map_blank after) key ih
  | @close bracket turn w blank =>
    rw [List.map_append, List.map_singleton, closing]
    exact .close blank (changes.map_blank blank)
  | first _ _ entry rest =>
    rw [List.map_append]
    exact .first entry rest
  | later blank _ _ entry rest =>
    simp only [List.map_append, List.map_cons, comma]
    exact .later blank (changes.map_blank blank) entry rest

end Changes

end Fanout.Json
