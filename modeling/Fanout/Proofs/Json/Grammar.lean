import Fanout.Json.Raw
import Fanout.Proofs.Json.Value
import Fanout.Proofs.Json.StringText

/-! The grammar of JSON text. A value is passed over if and only if the grammar derives it: the stack
of open brackets demands the ends of the lists and objects around a value, and no more. Nothing
bounds the depth of a text or the length of its numerals. -/

namespace Fanout.Json
open Text

def Blank (w : Bytes) : Prop := ∀ b ∈ w, b ∈ ([0x20, 0x09, 0x0A, 0x0D] : Bytes)

/-- The parts of a text: a value; an item of a list or a member of an object with the blanks before
it; what follows the bracket that opens one, or what follows an item in it. -/
inductive Phrase where
  | value
  | entry (bracket : Bracket)
  | rest (bracket : Bracket) (turn : Turn)

inductive Spells : Phrase → Bytes → Prop where
  | word {b : UInt8} {word : Bytes} : (b, word) ∈ words → Spells .value (b :: word)
  | numeral {n : Numeral} {p : Bytes} : NumeralText n p → Spells .value p
  | string {p : Bytes} : SkippedText p → Spells .value (0x22 :: (p ++ [0x22]))
  | bracketed {bracket : Bracket} {p : Bytes} : Spells (.rest bracket .first) p →
      Spells .value (bracket.opening :: p)
  | item {w v : Bytes} : Blank w → Spells .value v → Spells (.entry .list) (w ++ v)
  | member {w k w' w'' v : Bytes} : Blank w → SkippedText k → Blank w' → Blank w'' →
      Spells .value v →
      Spells (.entry .object) (w ++ 0x22 :: (k ++ 0x22 :: (w' ++ 0x3A :: (w'' ++ v))))
  | close {bracket : Bracket} {turn : Turn} {w : Bytes} : Blank w →
      Spells (.rest bracket turn) (w ++ [bracket.close])
  | first {bracket : Bracket} {p q : Bytes} : Spells (.entry bracket) p →
      Spells (.rest bracket .later) q → Spells (.rest bracket .first) (p ++ q)
  | later {bracket : Bracket} {w p q : Bytes} : Blank w → Spells (.entry bracket) p →
      Spells (.rest bracket .later) q → Spells (.rest bracket .later) (w ++ 0x2C :: (p ++ q))

/-! ## Blanks -/

theorem isSpace_iff {b : UInt8} :
    isSpace b = true ↔ b ∈ ([0x20, 0x09, 0x0A, 0x0D] : Bytes) := by
  simp [isSpace, or_assoc]

theorem blank_nil : Blank [] := by
  intro b member
  contradiction

theorem Blank.append {w w' : Bytes} (left : Blank w) (right : Blank w') : Blank (w ++ w') := by
  intro b member
  rcases List.mem_append.mp member with member | member
  · exact left b member
  · exact right b member

theorem Blank.skipSpace {w : Bytes} (blank : Blank w) (t : Bytes) :
    skipSpace (w ++ t) = skipSpace t :=
  skipSpace_append (fun b member => isSpace_iff.mpr (blank b member)) t

theorem blank_of_skipSpace (s : Bytes) : ∃ w, Blank w ∧ s = w ++ skipSpace s := by
  obtain ⟨w, same, spaces⟩ := skipSpace_spec s
  exact ⟨w, fun b member => isSpace_iff.mp (spaces b member), same⟩

theorem blank_of_skipSpace_eq {s t : Bytes} (space : skipSpace s = t) :
    ∃ w, Blank w ∧ s = w ++ t := space ▸ blank_of_skipSpace s

theorem blank_iff_skipSpace {s : Bytes} : Blank s ↔ skipSpace s = [] := by
  constructor
  · intro blank
    simpa [Json.skipSpace] using blank.skipSpace []
  · intro space
    obtain ⟨w, blank, same⟩ := blank_of_skipSpace_eq space
    rwa [same, List.append_nil]

theorem Blank.ended {w t : Bytes} (blank : Blank w) (ended : Ended t) : Ended (w ++ t) := by
  cases w with
  | nil => exact ended
  | cons b w =>
    intro c first
    cases first
    exact .inl (isSpace_iff.mpr (blank b List.mem_cons_self))

theorem Spells.blank {bracket : Bracket} {w p : Bytes} (text : Spells (.entry bracket) p)
    (blank : Blank w) : Spells (.entry bracket) (w ++ p) := by
  cases text with
  | item before value =>
    rw [← List.append_assoc]
    exact .item (blank.append before) value
  | member before key between after value =>
    rw [← List.append_assoc]
    exact .member (blank.append before) key between after value

/-! ## What is passed over is text -/

/-- What a stack of open brackets demands: the end of each, innermost first. -/
inductive Closes : List Bracket → Bytes → Prop where
  | nil : Closes [] []
  | cons {bracket : Bracket} {outer : List Bracket} {p q : Bytes} :
      Spells (.rest bracket .later) p → Closes outer q → Closes (bracket :: outer) (p ++ q)

/-- What is due and what the brackets around it demand. -/
inductive Wanted : Due → List Bracket → Bytes → Prop where
  | next {inside : List Bracket} {p : Bytes} : Closes inside p → Wanted .next inside p
  | item {due : Due} {bracket : Bracket} {inside : List Bracket} {p q : Bytes} :
      bracket.item = due → Spells (.entry bracket) p → Closes inside q → Wanted due inside (p ++ q)
  | start {bracket : Bracket} {outer : List Bracket} {p q : Bytes} :
      Spells (.rest bracket .first) p → Closes outer q → Wanted .start (bracket :: outer) (p ++ q)
  | outermost {p : Bytes} : Spells (.entry .list) p → Wanted .start [] p

theorem Wanted.closes {inside : List Bracket} {p : Bytes} (wanted : Wanted .next inside p) :
    Closes inside p := by
  cases wanted with
  | next closes => exact closes
  | @item _ bracket _ _ _ due => cases bracket <;> contradiction

theorem Bracket.item_inj {bracket bracket' : Bracket} (same : bracket.item = bracket'.item) :
    bracket = bracket' := by
  cases bracket <;> cases bracket' <;> first | rfl | contradiction

theorem Wanted.entry {bracket : Bracket} {inside : List Bracket} {s : Bytes}
    (wanted : Wanted bracket.item inside s) :
    ∃ p q, Spells (.entry bracket) p ∧ Closes inside q ∧ s = p ++ q := by
  generalize due : bracket.item = d at wanted
  cases wanted with
  | @item _ bracket' _ p q due' text closes =>
    cases Bracket.item_inj (due'.trans due.symm)
    exact ⟨p, q, text, closes, rfl⟩
  | next | start | outermost => cases bracket <;> contradiction

theorem Closes.value {inside : List Bracket} {w v q : Bytes} (closes : Closes inside q)
    (blank : Blank w) (text : Spells .value v) : Wanted .value inside (w ++ (v ++ q)) := by
  rw [← List.append_assoc]
  exact .item rfl (.item blank text) closes

/-- What is passed over is derived by the grammar. -/
theorem wanted_of_skips {due : Due} {inside : List Bracket} {s r : Bytes}
    (h : Skips due inside s r) : ∃ p, s = p ++ r ∧ Wanted due inside p := by
  induction h with
  | done => exact ⟨[], rfl, .next .nil⟩
  | string space scan _ ih =>
    obtain ⟨q, rfl, wanted⟩ := ih
    obtain ⟨w, blank, rfl⟩ := blank_of_skipSpace_eq space
    obtain ⟨p, text, rfl⟩ := skippedText_of_skipString scan
    exact ⟨_, by simp, wanted.closes.value blank (.string text)⟩
  | numeral space first read _ ih =>
    obtain ⟨q, rfl, wanted⟩ := ih
    obtain ⟨w, blank, rfl⟩ := blank_of_skipSpace_eq space
    obtain ⟨p, text, _, same⟩ := numeral_spec read
    refine ⟨_, ?_, wanted.closes.value blank (.numeral text)⟩
    rw [same]
    simp
  | word space isWord scan _ ih =>
    obtain ⟨q, rfl, wanted⟩ := ih
    obtain ⟨w, blank, rfl⟩ := blank_of_skipSpace_eq space
    obtain rfl := skipWord_spec scan
    exact ⟨_, by simp, wanted.closes.value blank (.word isWord)⟩
  | opening space _ ih =>
    obtain ⟨p, rfl, wanted⟩ := ih
    obtain ⟨w, blank, rfl⟩ := blank_of_skipSpace_eq space
    cases wanted with
    | start text closes => exact ⟨_, by simp, closes.value blank (.bracketed text)⟩
    | @item _ bracket _ _ _ due => cases bracket <;> contradiction
  | key space scan colon _ ih =>
    obtain ⟨p, rfl, wanted⟩ := ih
    obtain ⟨w, blank, rfl⟩ := blank_of_skipSpace_eq space
    obtain ⟨k, key, rfl⟩ := skippedText_of_skipString scan
    obtain ⟨w', between, rfl⟩ := blank_of_skipSpace_eq colon
    obtain ⟨p, q, entry, closes, rfl⟩ := @Wanted.entry .list _ _ wanted
    cases entry with
    | item after value =>
      exact ⟨_, by simp, .item rfl (.member blank key between after value) closes⟩
  | outermost _ ih =>
    obtain ⟨p, rfl, wanted⟩ := ih
    obtain ⟨p, q, entry, closes, rfl⟩ := @Wanted.entry .list _ _ wanted
    cases closes with
    | nil => exact ⟨_, rfl, .outermost (by simpa using entry)⟩
  | empty space _ ih =>
    obtain ⟨p, rfl, wanted⟩ := ih
    obtain ⟨w, blank, rfl⟩ := blank_of_skipSpace_eq space
    exact ⟨_, by simp, .start (.close blank) wanted.closes⟩
  | first space _ _ ih =>
    obtain ⟨p, same, wanted⟩ := ih
    obtain ⟨w, blank, rfl⟩ := blank_of_skipSpace_eq space
    obtain ⟨p, q, entry, closes, rfl⟩ := wanted.entry
    cases closes with
    | cons rest closes =>
      refine ⟨_, ?_, .start (.first (entry.blank blank) rest) closes⟩
      rw [same]
      simp
  | comma space _ ih =>
    obtain ⟨p, rfl, wanted⟩ := ih
    obtain ⟨w, blank, rfl⟩ := blank_of_skipSpace_eq space
    obtain ⟨p, q, entry, closes, rfl⟩ := wanted.entry
    cases closes with
    | cons rest closes =>
      exact ⟨_, by simp, .next (.cons (.later blank entry rest) closes)⟩
  | closing space _ ih =>
    obtain ⟨p, rfl, wanted⟩ := ih
    obtain ⟨w, blank, rfl⟩ := blank_of_skipSpace_eq space
    exact ⟨_, by simp, .next (.cons (.close blank) wanted.closes)⟩

/-! ## Text is passed over -/

theorem skipSpace_skipSpace (s : Bytes) : skipSpace (skipSpace s) = skipSpace s := by
  obtain ⟨w, blank, same⟩ := blank_of_skipSpace s
  conv_rhs => rw [same, blank.skipSpace]

/-- Blanks in front of an item make no difference. -/
theorem Skips.congr {bracket : Bracket} {inside : List Bracket} {s t r : Bytes}
    (h : Skips bracket.item inside s r) (same : skipSpace t = skipSpace s) :
    Skips bracket.item inside t r := by
  cases bracket with
  | list =>
    cases h with
    | string space scan rest => exact .string (same.trans space) scan rest
    | numeral space first read rest => exact .numeral (same.trans space) first read rest
    | word space isWord scan rest => exact .word (same.trans space) isWord scan rest
    | opening space rest => exact .opening (same.trans space) rest
  | object =>
    cases h with
    | key space scan colon rest => exact .key (same.trans space) scan colon rest

theorem Skips.first_item {bracket : Bracket} {outer : List Bracket} {s r : Bytes}
    (h : Skips bracket.item (bracket :: outer) s r) : Skips .start (bracket :: outer) s r := by
  obtain ⟨b, t, space, notClose⟩ := h.item_head
  refine .first space notClose (h.congr ?_)
  rw [← space, skipSpace_skipSpace]

/-- How a phrase is passed over, in every surrounding. -/
def Phrase.Passed : Phrase → Bytes → Prop
  | .value, p => ∀ {inside t u}, Ended t → Skips .next inside t u → Skips .value inside (p ++ t) u
  | .entry bracket, p => ∀ {outer t u}, Ended t → Skips .next (bracket :: outer) t u →
      Skips bracket.item (bracket :: outer) (p ++ t) u
  | .rest bracket .first, p => ∀ {outer t u}, Skips .next outer t u →
      Skips .start (bracket :: outer) (p ++ t) u
  | .rest bracket .later, p => (∀ t, Ended (p ++ t)) ∧
      ∀ {outer t u}, Skips .next outer t u → Skips .next (bracket :: outer) (p ++ t) u

/-- What the grammar derives is passed over. -/
theorem Spells.passed {phrase : Phrase} {p : Bytes} (text : Spells phrase p) :
    phrase.Passed p := by
  induction text with
  | word isWord =>
    intro inside t u _ last
    exact skips_word isWord last
  | @numeral n p text =>
    intro inside t u ended last
    exact skips_numeral text (ended.endsBefore n) last
  | string text =>
    intro inside t u _ last
    simpa using skips_string (text.skipString t) last
  | @bracketed bracket p _ ih =>
    intro inside t u _ last
    exact .opening (skipSpace_opening bracket _) (ih last)
  | @item w v blank _ ih =>
    intro outer t u ended last
    refine @Skips.congr .list _ _ _ _ (ih ended last) ?_
    rw [List.append_assoc, blank.skipSpace]
  | @member w k w' w'' v blank key between after _ ih =>
    intro outer t u ended last
    have value : Skips .value (.object :: outer) (w'' ++ (v ++ t)) u :=
      @Skips.congr .list _ _ _ _ (ih ended last) (after.skipSpace _)
    have colon : skipSpace (w' ++ 0x3A :: (w'' ++ (v ++ t))) = 0x3A :: (w'' ++ (v ++ t)) := by
      rw [between.skipSpace, skipSpace_of_head rfl]
    have quote := skipSpace_of_head (b := 0x22) rfl (k ++ 0x22 :: (w' ++ 0x3A :: (w'' ++ (v ++ t))))
    have passed := Skips.key ((blank.skipSpace _).trans quote) (key.skipString _) colon value
    simpa [Bracket.item] using passed
  | @close bracket turn w blank =>
    have closing (t : Bytes) : skipSpace (w ++ bracket.close :: t) = bracket.close :: t := by
      rw [blank.skipSpace, skipSpace_close]
    cases turn with
    | first =>
      intro outer t u last
      simpa using Skips.empty (closing t) last
    | later =>
      refine ⟨?_, ?_⟩
      · intro t
        simpa using blank.ended (ended_close bracket t)
      · intro outer t u last
        simpa using Skips.closing (closing t) last
  | @first bracket p q _ _ entry rest =>
    intro outer t u last
    rw [List.append_assoc]
    exact (entry (rest.1 t) (rest.2 last)).first_item
  | @later bracket w p q blank _ _ entry rest =>
    have comma (t : Bytes) : skipSpace (w ++ 0x2C :: t) = 0x2C :: t := by
      rw [blank.skipSpace, skipSpace_of_head rfl]
    refine ⟨?_, ?_⟩
    · intro t
      have ended : Ended (0x2C :: (p ++ (q ++ t))) := by
        intro b first
        cases first
        exact .inr (.inl rfl)
      simpa using blank.ended ended
    · intro outer t u last
      simpa using Skips.comma (comma _) (entry (rest.1 t) (rest.2 last))

theorem Spells.ended {bracket : Bracket} {p : Bytes} (text : Spells (.rest bracket .later) p)
    (t : Bytes) : Ended (p ++ t) := text.passed.1 t

/-! ## Values -/

/-- A value is passed over exactly as far as the grammar derives one. -/
theorem skipValue_of_spells {w v t : Bytes} (blank : Blank w) (text : Spells .value v)
    (ended : Ended t) : skipValue (w ++ (v ++ t)) = .ok t :=
  skipDue_of_skips (@Skips.congr .list _ _ _ _ (text.passed ended .done) (blank.skipSpace _))

theorem spells_of_skipValue {s r : Bytes} (h : skipValue s = .ok r) :
    ∃ w v, Blank w ∧ Spells .value v ∧ s = w ++ (v ++ r) := by
  obtain ⟨p, rfl, wanted⟩ := wanted_of_skips (skips_of_skipDue h)
  obtain ⟨p, q, entry, closes, rfl⟩ := @Wanted.entry .list _ _ wanted
  cases closes with
  | nil =>
    cases entry with
    | @item w v blank value => exact ⟨w, v, blank, value, by simp⟩

/-- A value starts with a byte that is no blank and ends no list. -/
theorem Spells.head {v : Bytes} (text : Spells .value v) :
    ∃ b r, v = b :: r ∧ isSpace b = false ∧ b ≠ 0x5D := by
  cases text with
  | @word b word isWord =>
    refine ⟨b, word, rfl, notBlank_word isWord, ?_⟩
    rintro rfl
    simp [words] at isWord
  | numeral text =>
    obtain ⟨b, r, rfl, first⟩ := text.head
    obtain ⟨_, _, same, _, notBlank⟩ := numeral_first text []
    cases same
    refine ⟨b, r, rfl, notBlank, ?_⟩
    rintro rfl
    simp [isDigit] at first
  | string => exact ⟨_, _, rfl, rfl, by decide⟩
  | @bracketed bracket => exact ⟨_, _, rfl, by cases bracket <;> rfl, by cases bracket <;> decide⟩

theorem Spells.skipSpace {v : Bytes} (text : Spells .value v) (t : Bytes) :
    skipSpace (v ++ t) = v ++ t := by
  obtain ⟨b, r, rfl, notBlank, _⟩ := text.head
  exact skipSpace_of_head notBlank _

def nullText : Bytes := [0x6E, 0x75, 0x6C, 0x6C]

/-- A value that starts as `null` does is `null`. -/
theorem Spells.eq_null {r : Bytes} (value : Spells .value (0x6E :: r)) :
    0x6E :: r = nullText := by
  generalize same : 0x6E :: r = v at value
  cases value with
  | @word b word isWord =>
    cases same
    simp only [words, List.mem_cons, Prod.mk.injEq, List.not_mem_nil, or_false] at isWord
    rcases isWord with ⟨_, rfl⟩ | ⟨start, _⟩ | ⟨start, _⟩
    · rfl
    · contradiction
    · contradiction
  | numeral text =>
    subst same
    obtain ⟨_, _, same, first⟩ := text.head
    cases same
    simp [isDigit] at first
  | string => cases same
  | @bracketed bracket =>
    have start := congrArg List.head? same
    cases bracket <;> simp [Bracket.opening] at start

/-- A text is one value in every surrounding if and only if the grammar derives it as a value, and
it is UTF-8. -/
theorem isValue_iff {v : Bytes} : IsValue v ↔ Spells .value v ∧ Utf8.IsText v := by
  constructor
  · intro value
    obtain ⟨w, u, blank, text, same⟩ := spells_of_skipValue (value.skipValue ended_nil)
    rw [List.append_nil, List.append_nil] at same
    subst same
    cases w with
    | nil => exact ⟨text, value.isText⟩
    | cons b w =>
      have notBlank := value.notBlank b rfl
      rw [isSpace_iff.mpr (blank b List.mem_cons_self)] at notBlank
      contradiction
  · rintro ⟨text, isText⟩
    constructor
    case isText => exact isText
    case notBlank =>
      obtain ⟨b, r, rfl, notBlank, _⟩ := text.head
      intro c first
      cases first
      exact notBlank
    case passed => exact text.passed

end Fanout.Json
