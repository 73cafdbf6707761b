import Fanout.Json.Value
import Fanout.Proofs.Json.Grammar
import Fanout.Proofs.Json.Limits

/-! Reading a value and passing over it, side by side. Whatever is read in full is passed over, up to
the same place. What is passed over in a text is read in full, unless a limit is reached in it or an
object in it starts with a member of the reserved name. -/

namespace Fanout.Json
open Text

/-! ## The same place for both -/

def Frame.bracket : Frame → Bracket
  | .list _ => .list
  | .object _ _ => .object

/-- What is due where a reader stands. -/
def Stage.due : Stage → Due
  | .value => .value
  | .complete _ => .next
  | .list | .object => .start
  | .key _ => .key

/-- The bracket that a reader stands in and of which it has no frame yet. -/
def Stage.inner : Stage → List Bracket
  | .list => [.list]
  | .object | .key _ => [.object]
  | .value | .complete _ => []

/-- The brackets that are open around a reader. -/
def Stage.inside (stage : Stage) (frames : List Frame) : List Bracket :=
  stage.inner ++ frames.map Frame.bracket

/-! ## Tokens -/

theorem skipString_of_readString {s r : Bytes} {t : String} (h : readString s = .ok (t, r)) :
    skipString s = .ok r := by
  obtain ⟨p, text, rfl⟩ := readString_iff.mp h
  exact text.skipped.skipString r

theorem numeral_of_readNumber {s r : Bytes} {x : Number} (h : readNumber s = .ok (x, r)) :
    ∃ n, numeral .invalidNumber s = .ok (n, r) := by
  unfold readNumber at h
  cases read : numeral .valueEnds s with
  | error f => simp [read, bind, Except.bind] at h
  | ok found =>
    obtain ⟨n, u⟩ := found
    obtain ⟨p, text, ends, rfl⟩ := numeral_spec read
    simp only [read, bind, Except.bind] at h
    split at h
    · contradiction
    · cases h
      exact ⟨n, text.numeral ends .invalidNumber⟩

/-! ## What is read is passed over -/

theorem skips_of_readStage {room : Nat} {stage : Stage} {frames : List Frame} {s r : Bytes}
    {v : Value} (h : readStage room stage frames s = .ok (v, r)) :
    Skips stage.due (stage.inside frames) s r := by
  fun_induction readStage room stage frames s with
  | case3 room frames s _ _ _ read _ space _ ih =>
    exact .string space (skipString_of_readString read) (ih h)
  | case5 room frames s _ _ space _ _ first _ _ read _ _ ih =>
    obtain ⟨n, read⟩ := numeral_of_readNumber read
    exact .numeral space first read (ih h)
  | case7 room frames s _ _ space _ _ _ ih => exact @Skips.opening _ .list _ _ _ space (ih h)
  | case9 room frames s _ _ space _ _ _ _ ih => exact @Skips.opening _ .object _ _ _ space (ih h)
  | case11 room frames s _ _ word _ space _ _ _ _ _ ih =>
    exact .word space (by simp [words]) word (ih h)
  | case13 room frames s _ _ word _ space _ _ _ _ _ _ ih =>
    exact .word space (by simp [words]) word (ih h)
  | case15 room frames s _ _ word _ space _ _ _ _ _ _ _ ih =>
    exact .word space (by simp [words]) word (ih h)
  | case18 room frames s _ space _ _ ih => exact @Skips.empty _ .list _ _ _ space (ih h)
  | case19 room frames s _ _ space _ _ item ih =>
    exact @Skips.first _ .list _ _ _ _ space item (ih h)
  | case21 room frames s _ space _ _ ih => exact @Skips.empty _ .object _ _ _ space (ih h)
  | case22 room frames s _ _ space _ _ item ih =>
    exact @Skips.first _ .object _ _ _ _ space item (ih h)
  | case31 room frames s _ _ _ _ key _ _ _ _ _ _ held _ _ _ _ _ _ space _ colon _ quote _ close _ _
      ih =>
    have value := Skips.string quote (skipString_of_readString held)
      (@Skips.closing _ .object _ _ _ close (ih h))
    exact .key space (skipString_of_readString key) colon value
  | case35 room frames s _ _ _ _ key _ _ _ space _ colon _ ih =>
    exact .key space (skipString_of_readString key) colon (ih h)
  | case39 =>
    cases h
    exact .done
  | case41 room s v items outer _ space _ ih => exact @Skips.closing _ .list _ _ _ space (ih h)
  | case44 room s v items outer t b u inner _ _ space _ _ ih =>
    have same : skipSpace t = skipSpace (b :: u) := by rw [← inner, skipSpace_skipSpace]
    have item := @Skips.congr .list _ _ _ _ (ih h) same
    exact @Skips.comma _ .list _ _ _ space item
  | case47 room s v _ _ outer _ _ space _ ih => exact @Skips.closing _ .object _ _ _ space (ih h)
  | case48 room s v _ _ outer _ _ space _ _ ih => exact @Skips.comma _ .object _ _ _ space (ih h)
  | _ => simp_all [fail]

/-! ## What passing over goes on with -/

section Inversion
variable {inside outer : List Bracket} {bracket : Bracket} {s t r u v x y : Bytes} {b : UInt8}
  {key held : String}

theorem Skips.of_quote (h : Skips .value inside s t) (space : skipSpace s = 0x22 :: r) :
    ∃ u, skipString r = .ok u ∧ Skips .next inside u t := by
  cases h with
  | string space' scan rest =>
    cases space.symm.trans space'
    exact ⟨_, scan, rest⟩
  | numeral space' first =>
    cases space.symm.trans space'
    simp [isDigit] at first
  | word space' isWord =>
    cases space.symm.trans space'
    simp [words] at isWord
  | @opening _ bracket _ _ _ space' =>
    have same := space.symm.trans space'
    cases bracket <;> cases same

theorem Skips.of_digit (h : Skips .value inside s t) (space : skipSpace s = b :: r)
    (first : b = 0x2D ∨ isDigit b = true) :
    ∃ n u, Json.numeral .invalidNumber (b :: r) = .ok (n, u) ∧ Skips .next inside u t := by
  cases h with
  | string space' =>
    cases space.symm.trans space'
    simp [isDigit] at first
  | numeral space' _ read rest =>
    cases space.symm.trans space'
    exact ⟨_, _, read, rest⟩
  | word space' isWord =>
    cases space.symm.trans space'
    simp only [words, List.mem_cons, Prod.mk.injEq, List.not_mem_nil, or_false] at isWord
    rcases isWord with ⟨rfl, _⟩ | ⟨rfl, _⟩ | ⟨rfl, _⟩ <;> simp [isDigit] at first
  | @opening _ bracket _ _ _ space' =>
    cases space.symm.trans space'
    cases bracket <;> simp [isDigit, Bracket.opening] at first

theorem Skips.of_word (h : Skips .value inside s t) (word : Bytes) (space : skipSpace s = b :: r)
    (isWord : (b, word) ∈ words) : ∃ u, skipWord word r = .ok u ∧ Skips .next inside u t := by
  have kinds := isWord
  simp only [words, List.mem_cons, Prod.mk.injEq, List.not_mem_nil, or_false] at kinds
  cases h with
  | string space' =>
    cases space.symm.trans space'
    simp at kinds
  | numeral space' first =>
    cases space.symm.trans space'
    rcases kinds with ⟨rfl, _⟩ | ⟨rfl, _⟩ | ⟨rfl, _⟩ <;> simp [isDigit] at first
  | @word _ _ _ word' _ _ _ space' isWord' scan rest =>
    cases space.symm.trans space'
    have same : word = word' := by
      simp only [words, List.mem_cons, Prod.mk.injEq, List.not_mem_nil, or_false] at isWord'
      rcases kinds with ⟨rfl, rfl⟩ | ⟨rfl, rfl⟩ | ⟨rfl, rfl⟩ <;> simp_all
    exact ⟨_, same ▸ scan, rest⟩
  | @opening _ bracket _ _ _ space' =>
    cases space.symm.trans space'
    cases bracket <;> simp [Bracket.opening] at kinds

theorem Skips.of_opening (h : Skips .value inside s t)
    (space : skipSpace s = bracket.opening :: r) : Skips .start (bracket :: inside) r t :=
  skips_of_skipDue ((skipDue_open space).symm.trans (skipDue_of_skips h))

theorem Skips.of_empty (h : Skips .start (bracket :: outer) s t)
    (space : skipSpace s = bracket.close :: r) : Skips .next outer r t :=
  skips_of_skipDue ((skipDue_empty space).symm.trans (skipDue_of_skips h))

theorem Skips.of_first (h : Skips .start (bracket :: outer) s t) (space : skipSpace s = b :: r)
    (item : b ≠ bracket.close) : Skips bracket.item (bracket :: outer) (b :: r) t :=
  skips_of_skipDue ((skipDue_first space item).symm.trans (skipDue_of_skips h))

theorem Skips.of_comma (h : Skips .next (bracket :: outer) s t) (space : skipSpace s = 0x2C :: r) :
    Skips bracket.item (bracket :: outer) r t :=
  skips_of_skipDue ((skipDue_comma space).symm.trans (skipDue_of_skips h))

theorem Skips.of_close (h : Skips .next (bracket :: outer) s t)
    (space : skipSpace s = bracket.close :: r) : Skips .next outer r t :=
  skips_of_skipDue ((skipDue_close space).symm.trans (skipDue_of_skips h))

theorem Skips.of_key (h : Skips .key inside s t) : ∃ r u v, skipSpace s = 0x22 :: r ∧
    skipString r = .ok u ∧ skipSpace u = 0x3A :: v ∧ Skips .value inside v t := by
  cases h with
  | key space scan colon rest => exact ⟨_, _, _, space, scan, colon, rest⟩

/-- The name of a member, where it is read, stands before a colon. -/
theorem Skips.of_name (h : Skips .key inside s t) (space : skipSpace s = 0x22 :: r)
    (read : readString r = .ok (key, u)) :
    ∃ v, skipSpace u = 0x3A :: v ∧ Skips .value inside v t := by
  obtain ⟨_, _, v, start, scan, colon, rest⟩ := h.of_key
  cases space.symm.trans start
  cases scan.symm.trans (skipString_of_readString read)
  exact ⟨v, colon, rest⟩

/-- A value is one of these by its first byte. -/
theorem Skips.value_cases (h : Skips .value inside s t) (space : skipSpace s = b :: r) :
    b = 0x22 ∨ (b = 0x2D ∨ isDigit b = true) ∨ (∃ bracket : Bracket, b = bracket.opening) ∨
      ∃ word, (b, word) ∈ words := by
  cases h with
  | string space' =>
    cases space.symm.trans space'
    exact .inl rfl
  | numeral space' first =>
    cases space.symm.trans space'
    exact .inr (.inl first)
  | word space' isWord =>
    cases space.symm.trans space'
    exact .inr (.inr (.inr ⟨_, isWord⟩))
  | opening space' =>
    cases space.symm.trans space'
    exact .inr (.inr (.inl ⟨_, rfl⟩))

theorem Skips.start_cases (h : Skips .start (bracket :: outer) s t) :
    ∃ b r, skipSpace s = b :: r := by
  cases h with
  | empty space => exact ⟨_, _, space⟩
  | first space => exact ⟨_, _, space⟩

theorem Skips.next_cases (h : Skips .next (bracket :: outer) s t) :
    ∃ b r, skipSpace s = b :: r ∧ (b = 0x2C ∨ b = bracket.close) := by
  cases h with
  | comma space => exact ⟨_, _, space, .inl rfl⟩
  | closing space => exact ⟨_, _, space, .inr rfl⟩

end Inversion

/-! ## Places -/

section Places
variable {s t r u v x y : Bytes} {b : UInt8}

theorem Skips.suffix {due : Due} {inside : List Bracket} (h : Skips due inside s r) : r <:+ s := by
  obtain ⟨p, rfl, _⟩ := wanted_of_skips h
  exact List.suffix_append p r

theorem suffix_of_skipSpace (space : skipSpace s = r) : r <:+ s :=
  space ▸ List.dropWhile_suffix isSpace

theorem suffix_of_space (space : skipSpace s = b :: r) : r <:+ s :=
  (List.suffix_cons b r).trans (suffix_of_skipSpace space)

theorem suffix_of_readString {key : String} (h : readString s = .ok (key, r)) : r <:+ s :=
  (suffix_of_skipString (skipString_of_readString h)).trans (List.tail_suffix s)

theorem suffix_of_readNumber {n : Number} (h : readNumber s = .ok (n, r)) : r <:+ s := by
  obtain ⟨n, read⟩ := numeral_of_readNumber h
  obtain ⟨p, _, _, rfl⟩ := numeral_spec read
  exact List.suffix_append p r

theorem suffix_of_skipWord {word : Bytes} (h : skipWord word s = .ok r) : r <:+ s := by
  rw [skipWord_spec h]
  exact List.suffix_append word r

theorem Skips.of_skipWord {inside : List Bracket} {word : Bytes} (h : Skips .value inside s t)
    (space : skipSpace s = b :: r) (isWord : (b, word) ∈ words) (scan : skipWord word r = .ok u) :
    Skips .next inside u t ∧ u <:+ s := by
  obtain ⟨v, scan', rest⟩ := h.of_word word space isWord
  cases scan.symm.trans scan'
  exact ⟨rest, (suffix_of_skipWord scan).trans (suffix_of_space space)⟩

/-- What follows the name of a member stands behind the first byte of the name. -/
theorem suffix_of_name {key : String} (read : readString r = .ok (key, u))
    (colon : skipSpace u = b :: v) : v <:+ r :=
  (suffix_of_space colon).trans (suffix_of_readString read)

theorem inside_of_space {fault : Fault} (space : skipSpace s = b :: r) (back : t <:+ fault.rest)
    (front : fault.rest <:+ r) : fault.Inside s t :=
  ⟨back, front.trans (suffix_of_space space),
    Nat.lt_of_le_of_lt front.length_le (skipSpace_cons space)⟩

theorem limits_of_space {cause : Cause} (limit : cause.IsLimit) (space : skipSpace s = b :: r)
    (back : t <:+ r) : Fault.Limits ⟨cause, r, none⟩ s t :=
  ⟨inside_of_space space back (List.suffix_refl r), limit, rfl⟩

/-- The rest of a text, from some place on. -/
def EndsText (s : Bytes) : Prop := ∃ a, Utf8.IsText (a ++ s)

theorem EndsText.of_suffix (text : EndsText s) (suffix : t <:+ s) : EndsText t := by
  obtain ⟨a, text⟩ := text
  obtain ⟨p, rfl⟩ := suffix
  exact ⟨a ++ p, by rwa [List.append_assoc]⟩

/-- Behind a byte of ASCII a text starts anew. -/
theorem EndsText.isText (text : EndsText s) (suffix : b :: r <:+ s) (low : b < 0x80) :
    Utf8.IsText r := by
  obtain ⟨a, text⟩ := text.of_suffix suffix
  exact (text.split low).2

end Places

/-! ## The reserved name -/

/-- Why an object is refused whose first member has the reserved name, by the text from that member's
value on: the value is no string, or a string that holds anything but one value for the reader, or
another member follows. -/
inductive ReservedFault (fault : Fault) : Bytes → Prop where
  | notString {b : UInt8} {x : Bytes} : b ≠ 0x22 → isSpace b = false →
      fault = unexpected "raw value" (b :: x) → ReservedFault fault (b :: x)
  | notValue {text : String} {p y : Bytes} {inner : Fault} : StringText text.toList p →
      Value.ofText maxDepth (Utf8.encode text) = .error inner →
      fault = inner.held (Utf8.encode text) y → ReservedFault fault (0x22 :: (p ++ 0x22 :: y))
  | another {text : String} {p w y : Bytes} : StringText text.toList p → Blank w →
      fault = ⟨.trailingComma, y, none⟩ →
      ReservedFault fault (0x22 :: (p ++ 0x22 :: (w ++ 0x2C :: y)))

/-- Behind the bracket of an object a member of the reserved name comes first, which is refused. -/
def Reserved (fault : Fault) (s : Bytes) : Prop :=
  ∃ w k w' w'' x, Blank w ∧ StringText textKey.toList k ∧ Blank w' ∧ Blank w'' ∧
    s = w ++ 0x22 :: (k ++ 0x22 :: (w' ++ 0x3A :: (w'' ++ x))) ∧ ReservedFault fault x

/-- An object in the text is refused that starts with a member of the reserved name. -/
def Embeds (fault : Fault) (s : Bytes) : Prop := ∃ a r, Reserved fault r ∧ s = a ++ 0x7B :: r

/-- Such an object, seen from a place that may be in it already. -/
def Stage.Embeds (fault : Fault) (s : Bytes) : Stage → Prop
  | .object | .key [] => Reserved fault s ∨ Json.Embeds fault s
  | _ => Json.Embeds fault s

section Reserved
variable {s r u v x y : Bytes} {fault : Fault}

theorem Embeds.of_suffix (embeds : Embeds fault r) (suffix : r <:+ s) : Embeds fault s := by
  obtain ⟨a, u, reserved, rfl⟩ := embeds
  obtain ⟨p, rfl⟩ := suffix
  exact ⟨p ++ a, u, reserved, by rw [List.append_assoc]⟩

theorem Reserved.embeds (reserved : Reserved fault r) (space : skipSpace s = 0x7B :: r) :
    Embeds fault s := by
  have opened : Embeds fault (0x7B :: r) := ⟨[], r, reserved, rfl⟩
  exact opened.of_suffix (suffix_of_skipSpace space)

theorem Reserved.of_skipSpace (reserved : Reserved fault r) (space : skipSpace s = r) :
    Reserved fault s := by
  obtain ⟨w, k, w', w'', x, blank, key, between, after, rfl, refused⟩ := reserved
  obtain ⟨w₀, blank', rfl⟩ := blank_of_skipSpace_eq space
  exact ⟨w₀ ++ w, k, w', w'', x, blank'.append blank, key, between, after,
    by rw [List.append_assoc], refused⟩

/-- The reader has come to the value of a member of the reserved name. -/
theorem Stage.embeds_of_name {members : List (String × Value)} {key : String}
    (space : skipSpace s = 0x22 :: r) (read : readString r = .ok (key, u))
    (colon : skipSpace u = 0x3A :: v) (value : skipSpace v = x)
    (reserved : members.isEmpty = true ∧ key = textKey) (refused : ReservedFault fault x) :
    (Stage.key members).Embeds fault s := by
  obtain ⟨empty, rfl⟩ := reserved
  obtain rfl := List.isEmpty_iff.mp empty
  obtain ⟨k, text, rfl⟩ := readString_iff.mp read
  obtain ⟨w, blank, rfl⟩ := blank_of_skipSpace_eq space
  obtain ⟨w', between, rfl⟩ := blank_of_skipSpace_eq colon
  obtain ⟨w'', after, rfl⟩ := blank_of_skipSpace_eq value
  exact .inl ⟨w, k, w', w'', x, blank, text, between, after, rfl, refused⟩

theorem ReservedFault.of_held {held : String} {inner : Fault} (read : readString x = .ok (held, y))
    (refused : Value.ofText maxDepth (Utf8.encode held) = .error inner) :
    ReservedFault (inner.held (Utf8.encode held) y) (0x22 :: x) := by
  obtain ⟨p, text, rfl⟩ := readString_iff.mp read
  exact .notValue text refused rfl

theorem ReservedFault.of_comma {held : String} {z : Bytes} (read : readString x = .ok (held, y))
    (comma : skipSpace y = 0x2C :: z) :
    ReservedFault ⟨.trailingComma, z, none⟩ (0x22 :: x) := by
  obtain ⟨p, text, rfl⟩ := readString_iff.mp read
  obtain ⟨w, blank, rfl⟩ := blank_of_skipSpace_eq comma
  exact .another text blank rfl

/-- A member that is passed over hides nothing of what follows it. -/
theorem Stage.embeds_key {members : List (String × Value)} (embeds : Json.Embeds fault r)
    (suffix : r <:+ s) : (Stage.key members).Embeds fault s := by
  have embeds := embeds.of_suffix suffix
  cases members with
  | nil => exact .inr embeds
  | cons => exact embeds

theorem insertMember_ne_nil (key : String) (v : Value) (members : List (String × Value)) :
    ∃ m ms, Value.insertMember key v members = m :: ms := by
  cases members with
  | nil => exact ⟨_, _, rfl⟩
  | cons m ms =>
    simp only [Value.insertMember]
    split
    · exact ⟨_, _, rfl⟩
    · split <;> exact ⟨_, _, rfl⟩

end Reserved

/-! ## What is passed over is read -/

/-- Why a reader refuses what is passed over up to `t`. -/
def Fault.Excused (fault : Fault) (stage : Stage) (s t : Bytes) : Prop :=
  fault.Limits s t ∨ (fault.Inside s t ∧ stage.Embeds fault s)

section Excused
variable {stage stage' : Stage} {s t r u v x y : Bytes} {fault : Fault}

theorem Fault.Excused.of_suffix (excused : fault.Excused stage r t) (suffix : r <:+ s)
    (embeds : stage.Embeds fault r → stage'.Embeds fault s) : fault.Excused stage' s t := by
  rcases excused with limits | ⟨inside, reserved⟩
  · exact .inl (limits.of_suffix suffix (List.suffix_refl t))
  · exact .inr ⟨inside.of_suffix suffix (List.suffix_refl t), embeds reserved⟩

theorem Agrees.excused {α : Type} {x : Except Fault (α × Bytes)} (agrees : Agrees x r u)
    (h : x = .error fault) (front : r <:+ s) (back : t <:+ u) : fault.Excused stage s t := by
  rcases agrees with ⟨a, read⟩ | ⟨fault', read, limits⟩
  · cases h.symm.trans read
  · cases h.symm.trans read
    exact .inl (limits.of_suffix front back)

/-- A string under the reserved name, where it is read, stands at the end of its object. -/
theorem Skips.of_held {inside : List Bracket} {key held : String} (h : Skips .key inside s t)
    (space : skipSpace s = 0x22 :: r) (read : readString r = .ok (key, u))
    (colon : skipSpace u = 0x3A :: v) (quote : skipSpace v = 0x22 :: x)
    (inner : readString x = .ok (held, y)) : y <:+ r ∧ Skips .next inside y t := by
  obtain ⟨v', colon', rest⟩ := h.of_name space read
  cases colon.symm.trans colon'
  obtain ⟨y', scan, rest⟩ := rest.of_quote quote
  cases scan.symm.trans (skipString_of_readString inner)
  have front := (suffix_of_readString inner).trans (suffix_of_space quote)
  exact ⟨front.trans (suffix_of_name read colon), rest⟩

/-- Where another value is found in the place of a string, not all of it need have been read. -/
theorem unexpected_suffix {inside : List Bracket} {b : UInt8} (expected : String)
    (text : EndsText s) (skips : Skips .value inside s t) (space : skipSpace s = b :: r) :
    t <:+ (unexpected expected (b :: r)).rest ∧ (unexpected expected (b :: r)).rest <:+ b :: r := by
  have behind : r <:+ b :: r := List.suffix_cons b r
  have value : Skips .value inside (b :: r) t :=
    @Skips.congr .list _ _ _ _ skips (by rw [← space, skipSpace_skipSpace])
  unfold unexpected
  simp only
  split
  · rename_i isWord
    subst isWord
    obtain ⟨u, scan, rest⟩ := skips.of_word [0x75, 0x6C, 0x6C] space (by simp [words])
    simp only [scan]
    exact ⟨rest.suffix, (suffix_of_skipWord scan).trans behind⟩
  split
  · rename_i isWord
    subst isWord
    obtain ⟨u, scan, rest⟩ := skips.of_word [0x72, 0x75, 0x65] space (by simp [words])
    simp only [scan]
    exact ⟨rest.suffix, (suffix_of_skipWord scan).trans behind⟩
  split
  · rename_i isWord
    subst isWord
    obtain ⟨u, scan, rest⟩ :=
      skips.of_word [0x61, 0x6C, 0x73, 0x65] space (by simp [words])
    simp only [scan]
    exact ⟨rest.suffix, (suffix_of_skipWord scan).trans behind⟩
  split
  · rename_i first
    obtain ⟨n, u, scan, rest⟩ := skips.of_digit space first
    rcases agrees_readNumber scan with ⟨x, read⟩ | ⟨fault, read, limits⟩
    · simp only [read]
      cases x <;> exact ⟨rest.suffix, suffix_of_readNumber read⟩
    · simp only [read]
      exact ⟨rest.suffix.trans limits.after, limits.before⟩
  split
  · rename_i quote
    subst quote
    obtain ⟨u, scan, rest⟩ := skips.of_quote space
    have isText := text.isText (suffix_of_skipSpace space) (by decide)
    rcases agrees_readString isText scan with ⟨x, read⟩ | ⟨fault, read, limits⟩
    · simp only [read]
      exact ⟨rest.suffix, (suffix_of_readString read).trans behind⟩
    · simp only [read]
      exact ⟨rest.suffix.trans limits.after, limits.before.trans behind⟩
  split
  · exact ⟨value.suffix, List.suffix_refl _⟩
  split
  · exact ⟨value.suffix, List.suffix_refl _⟩
  · rcases List.suffix_cons_iff.mp value.suffix with same | suffix
    · have := value.shorter (by simp)
      rw [same] at this
      omega
    · exact ⟨suffix, behind⟩

theorem readStage_of_skips {room : Nat} {stage : Stage} {frames : List Frame}
    (text : EndsText s) (skips : Skips stage.due (stage.inside frames) s t)
    (h : readStage room stage frames s = .error fault) : fault.Excused stage s t := by
  fun_induction readStage room stage frames s with
  | case1 room frames s none =>
    obtain ⟨b, r, space, _⟩ := skips.value_head
    cases none.symm.trans space
  | case2 room frames s r f read space =>
    cases h
    obtain ⟨u, scan, rest⟩ := skips.of_quote space
    have isText := text.isText (suffix_of_skipSpace space) (by decide)
    exact (agrees_readString isText scan).excused read (suffix_of_space space) rest.suffix
  | case3 room frames s r v u read _ space _ ih =>
    obtain ⟨u', scan, rest⟩ := skips.of_quote space
    cases scan.symm.trans (skipString_of_readString read)
    have suffix := (suffix_of_readString read).trans (suffix_of_space space)
    exact (ih (text.of_suffix suffix) rest h).of_suffix suffix (·.of_suffix suffix)
  | case4 room frames s b r space _ _ first f read =>
    cases h
    obtain ⟨n, u, scan, rest⟩ := skips.of_digit space first
    exact (agrees_readNumber scan).excused read (suffix_of_skipSpace space) rest.suffix
  | case5 room frames s b r space _ _ first x u read _ _ ih =>
    obtain ⟨n, u', scan, rest⟩ := skips.of_digit space first
    obtain ⟨n', scan'⟩ := numeral_of_readNumber read
    cases scan.symm.trans scan'
    have suffix := (suffix_of_readNumber read).trans (suffix_of_skipSpace space)
    exact (ih (text.of_suffix suffix) rest h).of_suffix suffix (·.of_suffix suffix)
  | case6 frames s r space =>
    cases h
    have rest := @Skips.of_opening _ .list _ _ _ skips space
    exact .inl (limits_of_space .depth space rest.suffix)
  | case7 room frames s r notZero space _ _ _ ih =>
    have rest := @Skips.of_opening _ .list _ _ _ skips space
    have suffix := suffix_of_space space
    exact (ih (text.of_suffix suffix) rest h).of_suffix suffix (·.of_suffix suffix)
  | case8 frames s r space =>
    cases h
    have rest := @Skips.of_opening _ .object _ _ _ skips space
    exact .inl (limits_of_space .depth space rest.suffix)
  | case9 room frames s r notZero space _ _ _ _ ih =>
    have rest := @Skips.of_opening _ .object _ _ _ skips space
    have suffix := suffix_of_space space
    refine (ih (text.of_suffix suffix) rest h).of_suffix suffix ?_
    rintro (reserved | embeds)
    · exact reserved.embeds space
    · exact embeds.of_suffix suffix
  | case10 room frames s r f scan space =>
    obtain ⟨u, scan', _⟩ := skips.of_word [0x75, 0x6C, 0x6C] space (by simp [words])
    cases scan.symm.trans scan'
  | case11 room frames s r u scan _ space _ _ _ _ _ ih =>
    obtain ⟨rest, suffix⟩ := skips.of_skipWord space (by simp [words]) scan
    exact (ih (text.of_suffix suffix) rest h).of_suffix suffix (·.of_suffix suffix)
  | case12 room frames s r f scan space =>
    obtain ⟨u, scan', _⟩ := skips.of_word [0x72, 0x75, 0x65] space (by simp [words])
    cases scan.symm.trans scan'
  | case13 room frames s r u scan _ space _ _ _ _ _ _ ih =>
    obtain ⟨rest, suffix⟩ := skips.of_skipWord space (by simp [words]) scan
    exact (ih (text.of_suffix suffix) rest h).of_suffix suffix (·.of_suffix suffix)
  | case14 room frames s r f scan space =>
    obtain ⟨u, scan', _⟩ :=
      skips.of_word [0x61, 0x6C, 0x73, 0x65] space (by simp [words])
    cases scan.symm.trans scan'
  | case15 room frames s r u scan _ space _ _ _ _ _ _ _ ih =>
    obtain ⟨rest, suffix⟩ := skips.of_skipWord space (by simp [words]) scan
    exact (ih (text.of_suffix suffix) rest h).of_suffix suffix (·.of_suffix suffix)
  | case16 room frames s b r space _ notQuote notNumber =>
    rcases skips.value_cases space with quote | number | ⟨bracket, rfl⟩ | ⟨word, isWord⟩
    · contradiction
    · contradiction
    · cases bracket <;> contradiction
    · simp_all [words]
  | case17 room frames s none =>
    obtain ⟨b, r, space⟩ := skips.start_cases
    cases none.symm.trans space
  | case18 room frames s r space _ _ ih =>
    have rest := @Skips.of_empty _ .list _ _ _ skips space
    have suffix := suffix_of_space space
    exact (ih (text.of_suffix suffix) rest h).of_suffix suffix (·.of_suffix suffix)
  | case19 room frames s b r space _ _ item ih =>
    have rest := @Skips.of_first _ .list _ _ _ _ skips space item
    have suffix := suffix_of_skipSpace space
    exact (ih (text.of_suffix suffix) rest h).of_suffix suffix (·.of_suffix suffix)
  | case20 room frames s none =>
    obtain ⟨b, r, space⟩ := skips.start_cases
    cases none.symm.trans space
  | case21 room frames s r space _ _ ih =>
    have rest := @Skips.of_empty _ .object _ _ _ skips space
    have suffix := suffix_of_space space
    refine (ih (text.of_suffix suffix) rest h).of_suffix suffix fun embeds => ?_
    exact .inr (embeds.of_suffix suffix)
  | case22 room frames s b r space _ _ item ih =>
    have rest := @Skips.of_first _ .object _ _ _ _ skips space item
    have suffix := suffix_of_skipSpace space
    refine (ih (text.of_suffix suffix) rest h).of_suffix suffix ?_
    rintro (reserved | embeds)
    · exact .inl (reserved.of_skipSpace space)
    · exact .inr (embeds.of_suffix suffix)
  | case23 room frames s members none =>
    obtain ⟨_, _, _, space, _⟩ := skips.of_key
    cases none.symm.trans space
  | case24 room frames s members r f read space =>
    cases h
    obtain ⟨_, u, v, space', scan, colon, rest⟩ := skips.of_key
    cases space.symm.trans space'
    have isText := text.isText (suffix_of_skipSpace space) (by decide)
    have back := rest.suffix.trans (suffix_of_space colon)
    exact (agrees_readString isText scan).excused read (suffix_of_space space) back
  | case25 room frames s members r key u read _ none space =>
    obtain ⟨v, colon, _⟩ := skips.of_name space read
    cases none.symm.trans colon
  | case26 room frames s members r key u read _ v reserved none space _ colon =>
    obtain ⟨v', colon', rest⟩ := skips.of_name space read
    cases colon.symm.trans colon'
    obtain ⟨b, x, start, _⟩ := rest.value_head
    cases none.symm.trans start
  | case27 room frames s members r key u read _ v reserved x f inner space _ colon _ quote =>
    cases h
    obtain ⟨v', colon', rest⟩ := skips.of_name space read
    cases colon.symm.trans colon'
    obtain ⟨y, scan, rest⟩ := rest.of_quote quote
    have suffix := (suffix_of_name read colon).trans (suffix_of_space space)
    have isText := text.isText ((suffix_of_skipSpace quote).trans suffix) (by decide)
    have front := (suffix_of_space quote).trans suffix
    exact (agrees_readString isText scan).excused inner front rest.suffix
  | case28 room frames s members r key u read _ v reserved x held y inner _ f own space _ colon _
      quote =>
    cases h
    obtain ⟨front, rest⟩ := skips.of_held space read colon quote inner
    have refused : Value.ofText maxDepth (Utf8.encode held) = .error f := by
      simp only [Value.ofText, whole, readValue, own]
    exact .inr ⟨inside_of_space space rest.suffix front,
      Stage.embeds_of_name space read colon quote reserved (.of_held inner refused)⟩
  | case29 room frames s members r key u read _ v reserved x held y inner _ _ after own _ z more
      space _ colon _ quote =>
    cases h
    obtain ⟨front, rest⟩ := skips.of_held space read colon quote inner
    have refused : Value.ofText maxDepth (Utf8.encode held)
        = .error ⟨.trailingCharacters, z, none⟩ := by
      simp only [Value.ofText, whole, readValue, own, more]
      rfl
    exact .inr ⟨inside_of_space space rest.suffix front,
      Stage.embeds_of_name space read colon quote reserved (.of_held inner refused)⟩
  | case30 room frames s members r key u read _ v reserved x held y inner _ _ _ _ _ none space _
      colon _ quote =>
    obtain ⟨_, rest⟩ := skips.of_held space read colon quote inner
    obtain ⟨b, z, start, _⟩ := rest.next_cases
    cases none.symm.trans start
  | case31 room frames s members r key u read _ v reserved x held y inner _ _ _ _ _ z space _ colon
      _ quote _ close _ _ ih =>
    obtain ⟨front, rest⟩ := skips.of_held space read colon quote inner
    have rest := @Skips.of_close _ .object _ _ _ rest close
    have suffix := (suffix_of_space close).trans (front.trans (suffix_of_space space))
    refine (ih (text.of_suffix suffix) rest h).of_suffix suffix fun embeds => ?_
    exact Stage.embeds_key embeds suffix
  | case32 room frames s members r key u read _ v reserved x held y inner _ _ _ _ _ z space _ colon
      _ quote _ comma =>
    cases h
    obtain ⟨front, rest⟩ := skips.of_held space read colon quote inner
    have rest := rest.of_comma comma
    have front := (suffix_of_space comma).trans front
    exact .inr ⟨inside_of_space space rest.suffix front,
      Stage.embeds_of_name space read colon quote reserved (.of_comma inner comma)⟩
  | case33 room frames s members r key u read _ v reserved x held y inner _ _ _ _ _ b z behind _
      notClose notComma space _ colon _ quote =>
    obtain ⟨_, rest⟩ := skips.of_held space read colon quote inner
    obtain ⟨b', z', behind', kinds⟩ := rest.next_cases
    cases behind.symm.trans behind'
    rcases kinds with rfl | rfl <;> contradiction
  | case34 room frames s members r key u read _ v reserved b x inner _ notQuote space _ colon =>
    cases h
    obtain ⟨v', colon', rest⟩ := skips.of_name space read
    cases colon.symm.trans colon'
    have front := suffix_of_name read colon
    have text := text.of_suffix (front.trans (suffix_of_space space))
    obtain ⟨back, found⟩ := unexpected_suffix "raw value" text rest inner
    have front := (found.trans (suffix_of_skipSpace inner)).trans front
    exact .inr ⟨inside_of_space space back front, Stage.embeds_of_name space read colon inner
      reserved (.notString notQuote (isSpace_head inner) rfl)⟩
  | case35 room frames s members r key u read _ v other space _ colon _ ih =>
    obtain ⟨v', colon', rest⟩ := skips.of_name space read
    cases colon.symm.trans colon'
    have suffix := (suffix_of_name read colon).trans (suffix_of_space space)
    refine (ih (text.of_suffix suffix) rest h).of_suffix suffix fun embeds => ?_
    exact Stage.embeds_key embeds suffix
  | case36 room frames s members r key u read _ b v behind _ notColon space =>
    obtain ⟨v', colon, _⟩ := skips.of_name space read
    cases behind.symm.trans colon
    contradiction
  | case37 room frames s members r space =>
    obtain ⟨_, _, _, space', _⟩ := skips.of_key
    cases space.symm.trans space'
  | case38 room frames s members b r space _ notQuote =>
    obtain ⟨_, _, _, space', _⟩ := skips.of_key
    cases space.symm.trans space'
    contradiction
  | case39 => contradiction
  | case40 room s v items outer none =>
    obtain ⟨b, r, space, _⟩ := skips.next_cases
    cases none.symm.trans space
  | case41 room s v items outer r space _ ih =>
    have rest := @Skips.of_close _ .list _ _ _ skips space
    have suffix := suffix_of_space space
    exact (ih (text.of_suffix suffix) rest h).of_suffix suffix (·.of_suffix suffix)
  | case42 room s v items outer r none space =>
    have rest := @Skips.of_comma _ .list _ _ _ skips space
    obtain ⟨b, u, inner, _⟩ := rest.value_head
    cases none.symm.trans inner
  | case43 room s v items outer r u space _ _ close =>
    have rest := @Skips.of_comma _ .list _ _ _ skips space
    obtain ⟨b, u, inner, notClose⟩ := rest.value_head
    cases close.symm.trans inner
    contradiction
  | case44 room s v items outer r b u inner _ _ space _ _ ih =>
    have rest := @Skips.of_comma _ .list _ _ _ skips space
    have same : skipSpace (b :: u) = skipSpace r := by rw [← inner, skipSpace_skipSpace]
    have suffix := (suffix_of_skipSpace inner).trans (suffix_of_space space)
    exact (ih (text.of_suffix suffix) (rest.congr same) h).of_suffix suffix (·.of_suffix suffix)
  | case45 room s v items outer b r space _ notClose notComma =>
    obtain ⟨b', r', space', kinds⟩ := skips.next_cases
    cases space.symm.trans space'
    rcases kinds with rfl | rfl <;> contradiction
  | case46 room s v members key outer none =>
    obtain ⟨b, r, space, _⟩ := skips.next_cases
    cases none.symm.trans space
  | case47 room s v members key outer r _ space _ ih =>
    have rest := @Skips.of_close _ .object _ _ _ skips space
    have suffix := suffix_of_space space
    exact (ih (text.of_suffix suffix) rest h).of_suffix suffix (·.of_suffix suffix)
  | case48 room s v members key outer r all space _ _ ih =>
    have rest := @Skips.of_comma _ .object _ _ _ skips space
    have suffix := suffix_of_space space
    refine (ih (text.of_suffix suffix) rest h).of_suffix suffix fun embeds => ?_
    obtain ⟨m, ms, some⟩ := insertMember_ne_nil key v members
    have embeds : (Stage.key (m :: ms)).Embeds fault r := some ▸ embeds
    exact Json.Embeds.of_suffix embeds suffix
  | case49 room s v members key outer b r space _ notClose notComma =>
    obtain ⟨b', r', space', kinds⟩ := skips.next_cases
    cases space.symm.trans space'
    rcases kinds with rfl | rfl <;> contradiction

end Excused

end Fanout.Json
