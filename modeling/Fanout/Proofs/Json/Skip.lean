import Fanout.Json.Skip
import Fanout.Proofs.Json.Numeral
import Fanout.Proofs.Json.Strings

/-! Passing over values, one rule for each kind of byte that a value can start with. From the rules
it follows that what was passed over is passed over in every other surrounding as well: inside any
brackets, and before anything that does not go on with a numeral. -/

namespace Fanout.Json
open Text

/-- Nothing follows, or a byte that no value goes on with. -/
def Ended (t : Bytes) : Prop :=
  ∀ b ∈ t.head?, isSpace b = true ∨ b = 0x2C ∨ b = 0x5D ∨ b = 0x7D

theorem Ended.endsBefore {t : Bytes} (ended : Ended t) (n : Numeral) : n.EndsBefore t := by
  intro b member goesOn
  have kinds := ended b member
  simp only [isSpace, Bool.or_eq_true, beq_iff_eq] at kinds
  rcases kinds with (((rfl | rfl) | rfl) | rfl) | rfl | rfl | rfl
  all_goals simp [Numeral.Extends, isDigit] at goesOn

theorem ended_nil : Ended [] := by
  intro b member
  contradiction

/-! ## Blanks and words -/

theorem skipSpace_spec (s : Bytes) :
    ∃ p, s = p ++ skipSpace s ∧ ∀ b ∈ p, isSpace b = true :=
  ⟨s.takeWhile isSpace, (List.takeWhile_append_dropWhile ..).symm,
    fun _ member => List.mem_takeWhile_imp member⟩

theorem isSpace_head {s r : Bytes} {b : UInt8} (space : skipSpace s = b :: r) :
    isSpace b = false := by
  have stopped := List.head?_dropWhile_not isSpace s
  rw [skipSpace] at space
  simpa [space] using stopped

theorem skipSpace_append {p : Bytes} (blank : ∀ b ∈ p, isSpace b = true) (t : Bytes) :
    skipSpace (p ++ t) = skipSpace t := List.dropWhile_append_of_pos blank

theorem skipSpace_of_head {b : UInt8} (h : isSpace b = false) (t : Bytes) :
    skipSpace (b :: t) = b :: t := by
  simp [skipSpace, h]

theorem skipSpace_prefix {s r : Bytes} {b : UInt8} (space : skipSpace s = b :: r) :
    ∃ p, s = p ++ b :: r ∧ ∀ t, skipSpace (p ++ b :: t) = b :: t := by
  obtain ⟨p, same, blank⟩ := skipSpace_spec s
  refine ⟨p, space ▸ same, ?_⟩
  intro t
  rw [skipSpace_append blank, skipSpace_of_head (isSpace_head space)]

theorem skipWord_append (word t : Bytes) : skipWord word (word ++ t) = .ok t := by
  induction word with
  | nil => rfl
  | cons w word ih => simpa [skipWord] using ih

theorem skipWord_spec {word s r : Bytes} (h : skipWord word s = .ok r) : s = word ++ r := by
  induction word generalizing s with
  | nil =>
    cases h
    rfl
  | cons w word ih =>
    cases s with
    | nil => simp [skipWord, fail] at h
    | cons b s =>
      simp only [skipWord] at h
      split at h
      · rename_i same
        rw [same, ih h, List.cons_append]
      · simp [fail] at h

/-! ## The rules -/

def Bracket.opening : Bracket → UInt8
  | .list => 0x5B
  | .object => 0x7B

/-- The words, each by its first byte. -/
def words : List (UInt8 × Bytes) :=
  [(0x6E, [0x75, 0x6C, 0x6C]), (0x74, [0x72, 0x75, 0x65]), (0x66, [0x61, 0x6C, 0x73, 0x65])]

/-- What is due inside open brackets is passed over up to the bytes in the last place, one rule for
each token. -/
inductive Skips : Due → List Bracket → Bytes → Bytes → Prop where
  | done {s} : Skips .next [] s s
  | string {inside s t u r} : skipSpace s = 0x22 :: t → skipString t = .ok u →
      Skips .next inside u r → Skips .value inside s r
  | numeral {inside s b n t u r} : skipSpace s = b :: t → b = 0x2D ∨ isDigit b = true →
      numeral .invalidNumber (b :: t) = .ok (n, u) → Skips .next inside u r →
      Skips .value inside s r
  | word {inside s b word t u r} : skipSpace s = b :: t → (b, word) ∈ words →
      skipWord word t = .ok u → Skips .next inside u r → Skips .value inside s r
  | opening {inside bracket s t r} : skipSpace s = Bracket.opening bracket :: t →
      Skips .start (bracket :: inside) t r → Skips .value inside s r
  | key {inside s t u v r} : skipSpace s = 0x22 :: t → skipString t = .ok u →
      skipSpace u = 0x3A :: v → Skips .value inside v r → Skips .key inside s r
  | outermost {s r} : Skips .value [] s r → Skips .start [] s r
  | empty {outer bracket s t r} : skipSpace s = Bracket.close bracket :: t →
      Skips .next outer t r → Skips .start (bracket :: outer) s r
  | first {outer bracket s b t r} : skipSpace s = b :: t → b ≠ Bracket.close bracket →
      Skips bracket.item (bracket :: outer) (b :: t) r → Skips .start (bracket :: outer) s r
  | comma {outer bracket s t r} : skipSpace s = 0x2C :: t →
      Skips (Bracket.item bracket) (bracket :: outer) t r → Skips .next (bracket :: outer) s r
  | closing {outer bracket s t r} : skipSpace s = Bracket.close bracket :: t →
      Skips .next outer t r → Skips .next (bracket :: outer) s r

theorem skips_of_skipDue {due : Due} {inside : List Bracket} {s r : Bytes}
    (h : skipDue due inside s = .ok r) : Skips due inside s r := by
  fun_induction skipDue due inside s with
  | case2 => exact .string ‹_› ‹_› (‹_ → Skips ..› h)
  | case4 => exact .numeral ‹_› ‹_› ‹_› (‹_ → Skips ..› h)
  | case6 => exact @Skips.opening _ .list _ _ _ ‹_› (‹_ → Skips ..› h)
  | case7 => exact @Skips.opening _ .object _ _ _ ‹_› (‹_ → Skips ..› h)
  | case8 =>
    exact @Skips.word _ _ _ [0x75, 0x6C, 0x6C] _ _ _ ‹_› (by simp [words]) ‹_› (‹_ → Skips ..› h)
  | case10 =>
    exact @Skips.word _ _ _ [0x72, 0x75, 0x65] _ _ _ ‹_› (by simp [words]) ‹_› (‹_ → Skips ..› h)
  | case12 =>
    exact @Skips.word _ _ _ [0x61, 0x6C, 0x73, 0x65] _ _ _ ‹_› (by simp [words]) ‹_›
      (‹_ → Skips ..› h)
  | case18 => exact .key ‹_› ‹_› ‹_› (‹_ → Skips ..› h)
  | case21 => exact .outermost (‹_ → Skips ..› h)
  | case23 => exact .empty ‹_› (‹_ → Skips ..› h)
  | case24 => exact .first ‹_› ‹_› (‹_ → Skips ..› h)
  | case25 =>
    cases h
    exact .done
  | case27 => exact .comma ‹_› (‹_ → Skips ..› h)
  | case28 => exact .closing ‹_› (‹_ → Skips ..› h)
  | _ => contradiction

section Rules
variable {inside outer : List Bracket} {bracket : Bracket} {s t u r : Bytes} {b : UInt8}

theorem skipDue_string (space : skipSpace s = 0x22 :: u) (string : skipString u = .ok r) :
    skipDue .value inside s = skipDue .next inside r := by
  rw [skipDue.eq_def]
  simp only
  split
  · simp_all
  · rename_i same
    cases space.symm.trans same
    simp only [if_true]
    split <;> simp_all

theorem skipDue_numeral {n : Numeral} (space : skipSpace s = b :: u)
    (first : b = 0x2D ∨ isDigit b = true) (read : numeral .invalidNumber (b :: u) = .ok (n, r)) :
    skipDue .value inside s = skipDue .next inside r := by
  have notQuote : b ≠ 0x22 := by
    rintro rfl
    simp [isDigit] at first
  rw [skipDue.eq_def]
  simp only
  split
  · simp_all
  · rename_i same
    cases space.symm.trans same
    simp only [notQuote, first, if_true, if_false]
    split <;> simp_all

theorem skipDue_open (space : skipSpace s = bracket.opening :: u) :
    skipDue .value inside s = skipDue .start (bracket :: inside) u := by
  rw [skipDue.eq_def]
  simp only
  split
  · simp_all
  · rename_i same
    cases space.symm.trans same
    cases bracket <;> simp [Bracket.opening, isDigit]

theorem skipDue_word {word : Bytes} (space : skipSpace s = b :: u) (isWord : (b, word) ∈ words)
    (scan : skipWord word u = .ok r) : skipDue .value inside s = skipDue .next inside r := by
  simp only [words, List.mem_cons, Prod.mk.injEq, List.not_mem_nil, or_false] at isWord
  rw [skipDue.eq_def]
  simp only
  split
  · simp_all
  · rename_i same
    cases space.symm.trans same
    rcases isWord with ⟨rfl, rfl⟩ | ⟨rfl, rfl⟩ | ⟨rfl, rfl⟩
    all_goals
      simp [isDigit]
      split <;> simp_all

theorem skipDue_key (space : skipSpace s = 0x22 :: u) (string : skipString u = .ok t)
    (colon : skipSpace t = 0x3A :: r) :
    skipDue .key inside s = skipDue .value inside r := by
  rw [skipDue.eq_def]
  simp only
  split
  · simp_all
  · rename_i same
    cases space.symm.trans same
    simp only [if_true]
    split
    · simp_all
    · rename_i same
      cases string.symm.trans same
      split
      · simp_all
      · rename_i same
        cases colon.symm.trans same
        simp

theorem skipDue_start_nil : skipDue .start [] s = skipDue .value [] s := by
  rw [skipDue.eq_def]

theorem skipDue_empty (space : skipSpace s = bracket.close :: u) :
    skipDue .start (bracket :: outer) s = skipDue .next outer u := by
  rw [skipDue.eq_def]
  simp only
  split
  · simp_all
  · rename_i same
    cases space.symm.trans same
    simp

theorem skipDue_first (space : skipSpace s = b :: u) (item : b ≠ bracket.close) :
    skipDue .start (bracket :: outer) s = skipDue bracket.item (bracket :: outer) (b :: u) := by
  rw [skipDue.eq_def]
  simp only
  split
  · simp_all
  · rename_i same
    cases space.symm.trans same
    simp [item]

theorem skipDue_done : skipDue .next [] s = .ok s := by
  rw [skipDue.eq_def]

theorem skipDue_comma (space : skipSpace s = 0x2C :: u) :
    skipDue .next (bracket :: outer) s = skipDue bracket.item (bracket :: outer) u := by
  rw [skipDue.eq_def]
  simp only
  split
  · simp_all
  · rename_i same
    cases space.symm.trans same
    simp

theorem skipDue_close (space : skipSpace s = bracket.close :: u) :
    skipDue .next (bracket :: outer) s = skipDue .next outer u := by
  rw [skipDue.eq_def]
  simp only
  split
  · simp_all
  · rename_i same
    cases space.symm.trans same
    cases bracket <;> simp [Bracket.close]

end Rules

theorem skipDue_of_skips {due : Due} {inside : List Bracket} {s r : Bytes}
    (h : Skips due inside s r) : skipDue due inside s = .ok r := by
  induction h with
  | done => exact skipDue_done
  | string space string _ ih => exact (skipDue_string space string).trans ih
  | numeral space first read _ ih => exact (skipDue_numeral space first read).trans ih
  | word space isWord scan _ ih => exact (skipDue_word space isWord scan).trans ih
  | opening space _ ih => exact (skipDue_open space).trans ih
  | key space string colon _ ih => exact (skipDue_key space string colon).trans ih
  | outermost _ ih => exact skipDue_start_nil.trans ih
  | empty space _ ih => exact (skipDue_empty space).trans ih
  | first space item _ ih => exact (skipDue_first space item).trans ih
  | comma space _ ih => exact (skipDue_comma space).trans ih
  | closing space _ ih => exact (skipDue_close space).trans ih

/-! ## Scalars -/

theorem isSpace_of_isDigit {b : UInt8} (digit : isDigit b = true) : isSpace b = false := by
  simp only [isSpace, Bool.or_eq_false_iff, beq_eq_false_iff_ne]
  refine ⟨⟨⟨?_, ?_⟩, ?_⟩, ?_⟩
  all_goals
    rintro rfl
    contradiction

theorem numeral_first {n : Numeral} {p : Bytes} (text : NumeralText n p) (t : Bytes) :
    ∃ b r, p ++ t = b :: r ∧ (b = 0x2D ∨ isDigit b = true) ∧ isSpace b = false := by
  obtain ⟨b, r, rfl, first⟩ := text.head
  refine ⟨b, r ++ t, rfl, first, ?_⟩
  rcases first with rfl | digit
  · rfl
  · exact isSpace_of_isDigit digit

theorem notBlank_word {b : UInt8} {word : Bytes} (isWord : (b, word) ∈ words) :
    isSpace b = false := by
  simp only [words, List.mem_cons, Prod.mk.injEq, List.not_mem_nil, or_false] at isWord
  rcases isWord with ⟨rfl, _⟩ | ⟨rfl, _⟩ | ⟨rfl, _⟩ <;> rfl

section Scalars
variable {inside : List Bracket} {t u : Bytes}

theorem skips_string {s : Bytes} (scan : skipString s = .ok t) (last : Skips .next inside t u) :
    Skips .value inside (0x22 :: s) u :=
  .string (skipSpace_of_head rfl s) scan last

theorem skips_numeral {n : Numeral} {p : Bytes} (text : NumeralText n p) (ends : n.EndsBefore t)
    (last : Skips .next inside t u) : Skips .value inside (p ++ t) u := by
  have read := text.numeral ends .invalidNumber
  obtain ⟨b, r, same, first, notBlank⟩ := numeral_first text t
  rw [same] at read ⊢
  exact .numeral (skipSpace_of_head notBlank r) first read last

theorem skips_word {b : UInt8} {word : Bytes} (isWord : (b, word) ∈ words)
    (last : Skips .next inside t u) : Skips .value inside (b :: word ++ t) u :=
  .word (skipSpace_of_head (notBlank_word isWord) _) isWord (skipWord_append word t) last

end Scalars

theorem Skips.shorter {due : Due} {inside : List Bracket} {s r : Bytes} (h : Skips due inside s r)
    (notDone : due ≠ .next) : r.length < s.length := by
  induction h with
  | done | comma | closing => contradiction
  | string space string rest =>
    have := skipSpace_cons space
    have := skipString_length string
    have := skipDue_length (skipDue_of_skips rest)
    omega
  | numeral space _ read rest =>
    have := skipSpace_cons space
    have := numeral_length read
    have := skipDue_length (skipDue_of_skips rest)
    simp only [List.length_cons] at *
    omega
  | word space _ scan rest =>
    have := skipSpace_cons space
    have := skipWord_length scan
    have := skipDue_length (skipDue_of_skips rest)
    omega
  | opening space rest | empty space rest =>
    have := skipSpace_cons space
    have := skipDue_length (skipDue_of_skips rest)
    omega
  | key space string colon rest =>
    have := skipSpace_cons space
    have := skipString_length string
    have := skipSpace_cons colon
    have := skipDue_length (skipDue_of_skips rest)
    omega
  | outermost _ ih => exact ih (by simp)
  | @first _ bracket s _ _ _ space _ _ ih =>
    have := ih (by cases bracket <;> simp [Bracket.item])
    have := skipSpace_length s
    rw [space] at this
    omega

/-! ## Other surroundings -/

/-- What is passed over in front of the rest is not empty, and starts as the text does. -/
theorem Skips.cons_of_append {due : Due} {inside : List Bracket} {b : UInt8} {s r p : Bytes}
    (h : Skips due inside (b :: s) r) (notDone : due ≠ .next) (same : b :: s = p ++ r) :
    ∃ q, p = b :: q := by
  cases p with
  | nil =>
    have := h.shorter notDone
    rw [same] at this
    simp at this
  | cons c q =>
    cases same
    exact ⟨q, rfl⟩

/-- What may stand in the place of `r` behind a value: something that starts alike, or that no value
goes on with. -/
def Follows (r t : Bytes) : Prop := t.head? = r.head? ∨ Ended t

theorem Follows.append {r t : Bytes} (follows : Follows r t) (p : Bytes) :
    Follows (p ++ r) (p ++ t) := by
  cases p with
  | nil => exact follows
  | cons b p => exact .inl rfl

theorem Follows.endsBefore {n : Numeral} {r t : Bytes} (follows : Follows r t)
    (ends : n.EndsBefore r) : n.EndsBefore t := by
  rcases follows with same | ended
  · exact ends.congr same
  · exact ended.endsBefore n

/-- Whatever the brackets around it want is due behind what was passed over. -/
theorem Skips.frame {due : Due} {inside : List Bracket} {s r : Bytes}
    (h : Skips due inside s r) (started : inside = [] → due ≠ .start) :
    ∃ p, s = p ++ r ∧ ∀ outer t u, Follows r t → Skips .next outer t u →
      Skips due (inside ++ outer) (p ++ t) u := by
  induction h with
  | done => exact ⟨[], rfl, fun outer t u _ rest => rest⟩
  | string space scan _ ih =>
    obtain ⟨p, rfl, rest⟩ := ih (by simp)
    obtain ⟨q, rfl, scans⟩ := skipString_prefix scan
    obtain ⟨sp, rfl, spaces⟩ := skipSpace_prefix space
    refine ⟨sp ++ 0x22 :: (q ++ p), by simp, ?_⟩
    intro outer t u follows last
    have passed := Skips.string (spaces _) (scans (p ++ t)) (rest outer t u follows last)
    simpa using passed
  | @numeral inside s b n v w r space first read _ ih =>
    obtain ⟨p, rfl, rest⟩ := ih (by simp)
    obtain ⟨q, text, ends, same⟩ := numeral_spec read
    obtain ⟨sp, rfl, spaces⟩ := skipSpace_prefix space
    obtain ⟨q, rfl⟩ := text.cons_of_append same
    refine ⟨sp ++ b :: (q ++ p), by simpa using same, ?_⟩
    intro outer t u follows last
    have reads := text.numeral ((follows.append p).endsBefore ends) .invalidNumber
    have passed := Skips.numeral (spaces (q ++ (p ++ t))) first reads
      (rest outer t u follows last)
    simpa using passed
  | @word inside s b word v w r space isWord scan _ ih =>
    obtain ⟨p, rfl, rest⟩ := ih (by simp)
    obtain ⟨sp, rfl, spaces⟩ := skipSpace_prefix space
    obtain rfl := skipWord_spec scan
    refine ⟨sp ++ b :: (word ++ p), by simp, ?_⟩
    intro outer t u follows last
    have passed := Skips.word (spaces _) isWord (skipWord_append word (p ++ t))
      (rest outer t u follows last)
    simpa using passed
  | @opening inside bracket s v r space _ ih =>
    obtain ⟨p, rfl, rest⟩ := ih (by simp)
    obtain ⟨sp, rfl, spaces⟩ := skipSpace_prefix space
    refine ⟨sp ++ bracket.opening :: p, by simp, ?_⟩
    intro outer t u follows last
    have passed := Skips.opening (spaces (p ++ t)) (rest outer t u follows last)
    simpa using passed
  | key space scan colon _ ih =>
    obtain ⟨p, rfl, rest⟩ := ih (by simp)
    obtain ⟨q, rfl, scans⟩ := skipString_prefix scan
    obtain ⟨sp, rfl, spaces⟩ := skipSpace_prefix space
    obtain ⟨sq, rfl, spaces'⟩ := skipSpace_prefix colon
    refine ⟨sp ++ 0x22 :: (q ++ (sq ++ 0x3A :: p)), by simp, ?_⟩
    intro outer t u follows last
    have passed := Skips.key (spaces _) (scans _) (spaces' (p ++ t)) (rest outer t u follows last)
    simpa using passed
  | outermost => exact absurd rfl (started rfl)
  | @empty outer bracket s v r space _ ih =>
    obtain ⟨p, rfl, rest⟩ := ih (by simp)
    obtain ⟨sp, rfl, spaces⟩ := skipSpace_prefix space
    refine ⟨sp ++ bracket.close :: p, by simp, ?_⟩
    intro outer t u follows last
    have passed := Skips.empty (spaces (p ++ t)) (rest outer t u follows last)
    simpa using passed
  | @first outer bracket s b v r space item items ih =>
    obtain ⟨p, same, rest⟩ := ih (by simp)
    obtain ⟨sp, rfl, spaces⟩ := skipSpace_prefix space
    obtain ⟨p, rfl⟩ := items.cons_of_append (by cases bracket <;> simp [Bracket.item]) same
    refine ⟨sp ++ b :: p, by simpa using same, ?_⟩
    intro outer t u follows last
    have passed := Skips.first (spaces (p ++ t)) item (rest outer t u follows last)
    simpa using passed
  | @comma outer bracket s v r space _ ih =>
    obtain ⟨p, rfl, rest⟩ := ih (by simp)
    obtain ⟨sp, rfl, spaces⟩ := skipSpace_prefix space
    refine ⟨sp ++ 0x2C :: p, by simp, ?_⟩
    intro outer t u follows last
    have passed := Skips.comma (spaces (p ++ t)) (rest outer t u follows last)
    simpa using passed
  | @closing outer bracket s v r space _ ih =>
    obtain ⟨p, rfl, rest⟩ := ih (by simp)
    obtain ⟨sp, rfl, spaces⟩ := skipSpace_prefix space
    refine ⟨sp ++ bracket.close :: p, by simp, ?_⟩
    intro outer t u follows last
    have passed := Skips.closing (spaces (p ++ t)) (rest outer t u follows last)
    simpa using passed

end Fanout.Json
