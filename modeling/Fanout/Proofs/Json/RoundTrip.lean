import Fanout.Proofs.Json.Stages
import Fanout.Proofs.Json.Value

/-! A written value is read back if there is room for the brackets in it, and else the reader stops
because it is nested too deeply. Floating point numbers are left aside, and so are objects whose
first member has the reserved name. -/

namespace Fanout.Json
open Text

namespace Value

mutual

/-- How many brackets are open in the text of a value at once. -/
def depth : Value → Nat
  | .array items => depthItems items + 1
  | .object members => depthMembers members + 1
  | _ => 0

def depthItems : List Value → Nat
  | [] => 0
  | v :: vs => max v.depth (depthItems vs)

def depthMembers : List (String × Value) → Nat
  | [] => 0
  | (_, v) :: vs => max v.depth (depthMembers vs)

end

mutual

/-- No floating point number, integers within 64 bits, and members in the order of their names, each
name once. -/
def Exact : Value → Prop
  | .number (.integer i) => -2 ^ 63 ≤ i ∧ i < 2 ^ 64
  | .number (.float _) => False
  | .array items => ExactItems items
  | .object members => (members.map Prod.fst).Pairwise (· < ·) ∧ ExactMembers members
  | _ => True

def ExactItems : List Value → Prop
  | [] => True
  | v :: vs => v.Exact ∧ ExactItems vs

def ExactMembers : List (String × Value) → Prop
  | [] => True
  | (_, v) :: vs => v.Exact ∧ ExactMembers vs

end

mutual

/-- No object whose first member has the reserved name. -/
def Free : Value → Prop
  | .array items => FreeItems items
  | .object members => (∀ m ∈ members.head?, m.1 ≠ textKey) ∧ FreeMembers members
  | _ => True

def FreeItems : List Value → Prop
  | [] => True
  | v :: vs => v.Free ∧ FreeItems vs

def FreeMembers : List (String × Value) → Prop
  | [] => True
  | (_, v) :: vs => v.Free ∧ FreeMembers vs

end

end Value

/-! ## Integers -/

theorem digitValue_digit (n : Nat) : digitValue (Decimal.digit n) = n % 10 := by
  rw [digitValue, toNat_digit]
  omega

theorem decimal_digits (n : Nat) : decimal (Decimal.digits n) = n := by
  fun_induction Decimal.digits n with
  | case1 n small =>
    simp only [decimal, List.foldl_cons, List.foldl_nil, digitValue_digit]
    omega
  | case2 n large ih =>
    simp only [decimal] at ih
    simp only [decimal, List.foldl_append, List.foldl_cons, List.foldl_nil, digitValue_digit, ih]
    omega

/-- More digits do not make a number smaller. -/
theorem le_foldl (significand : Nat) (ds : Bytes) :
    significand ≤ ds.foldl (fun n d => n * 10 + digitValue d) significand := by
  induction ds generalizing significand with
  | nil => exact Nat.le_refl significand
  | cons d ds ih =>
    have := ih (significand * 10 + digitValue d)
    simp only [List.foldl_cons]
    omega

theorem absorb_eq {significand : Nat} {ds : Bytes}
    (small : ds.foldl (fun n d => n * 10 + digitValue d) significand < 2 ^ 64) :
    absorb significand ds = (ds.foldl (fun n d => n * 10 + digitValue d) significand, []) := by
  induction ds generalizing significand with
  | nil => rfl
  | cons d ds ih =>
    have fits : significand * 10 + digitValue d < Nat.pow 2 64 :=
      Nat.lt_of_le_of_lt (le_foldl _ ds) small
    simp only [absorb]
    rw [if_pos fits, ih small, List.foldl_cons]

theorem absorb_digits {n : Nat} (small : n < 2 ^ 64) : absorb 0 (Decimal.digits n) = (n, []) := by
  have same : (Decimal.digits n).foldl (fun n d => n * 10 + digitValue d) 0 = n := decimal_digits n
  rw [absorb_eq (same.symm ▸ small), same]

theorem value_digits {negative : Bool} {n : Nat} (small : n < 2 ^ 64) (t : Bytes) :
    Numeral.value ⟨negative, Decimal.digits n, none, none⟩ t =
      if !negative then .ok (.integer n)
      else if 0 < n ∧ n ≤ Nat.pow 2 63 then .ok (.integer (-n))
      else .ok (.float (-(UInt64.ofNat n).toFloat)) := by
  simp [Numeral.value, Numeral.significand, Numeral.isWhole, absorb_digits small, absorb]

theorem readNumber_integer {i : Int} (least : -2 ^ 63 ≤ i) (greatest : i < 2 ^ 64) {t : Bytes}
    (ended : Ended t) : readNumber (Decimal.integer i ++ t) = .ok (.integer i, t) := by
  cases i with
  | ofNat n =>
    have text := NumeralText.parts .plus (wholeText_digits n) .absent .absent
    have small : n < 2 ^ 64 := by
      rw [Int.ofNat_eq_natCast] at greatest
      omega
    rw [List.append_nil, List.append_nil, List.nil_append] at text
    rw [Decimal.integer, text.readNumber (ended.endsBefore _), value_digits small]
    rfl
  | negSucc n =>
    have text := NumeralText.parts .minus (wholeText_digits (n + 1)) .absent .absent
    have few : n + 1 ≤ 2 ^ 63 := by
      rw [Int.negSucc_eq] at least
      omega
    have small : n + 1 < 2 ^ 64 := by omega
    rw [List.append_nil, List.append_nil] at text
    have written : Decimal.integer (.negSucc n) = [0x2D] ++ Decimal.digits (n + 1) := rfl
    rw [written, text.readNumber (ended.endsBefore _), value_digits small, if_neg (by simp),
      if_pos ⟨Nat.succ_pos n, few⟩]
    rfl

theorem integer_first (i : Int) (t : Bytes) : ∃ b r, Decimal.integer i ++ t = b :: r ∧
    (b = 0x2D ∨ isDigit b = true) ∧ skipSpace (Decimal.integer i ++ t) = b :: r := by
  obtain ⟨n, text⟩ := isNumeral_integer i
  obtain ⟨b, r, same, first, notBlank⟩ := numeral_first text t
  exact ⟨b, r, same, first, (congrArg skipSpace same).trans (skipSpace_of_head notBlank r)⟩

/-! ## Room -/

/-- A reader with room for this many brackets goes from one place to the other, and with less it
stops because it is nested too deeply. -/
def Needs (depth room : Nat) (x y : Except Fault (Value × Bytes)) : Prop :=
  (depth ≤ room → x = y) ∧ (room < depth → ∃ rest, x = fail .nestedTooDeep rest)

section Needs
variable {depth depth' room : Nat} {x y z : Except Fault (Value × Bytes)}

theorem needs_zero (same : x = y) : Needs 0 room x y := by
  refine ⟨fun _ => same, fun none => ?_⟩
  contradiction

theorem Needs.of_eq (needs : Needs depth room y z) (same : x = y) : Needs depth room x z :=
  same ▸ needs

theorem Needs.trans (first : Needs depth room x y) (then' : Needs depth' room y z) :
    Needs (max depth depth') room x z := by
  constructor
  · intro enough
    exact (first.1 (by omega)).trans (then'.1 (by omega))
  · intro little
    rcases Nat.lt_or_ge room depth with short | enough
    · exact first.2 short
    · rw [first.1 enough]
      exact then'.2 (by omega)

/-- An open bracket takes one place. -/
theorem Needs.bracketed (bracket : Bracket) {frames frames' : List Frame} {stage : Stage}
    {s u t : Bytes} (space : skipSpace s = bracket.opening :: u)
    (inner : ∀ room, Needs depth room (readStage room bracket.stage frames u)
      (readStage (room + 1) stage frames' t)) :
    Needs (depth + 1) room (readStage room .value frames s) (readStage room stage frames' t) := by
  rw [readStage_open space]
  cases room with
  | zero =>
    refine ⟨fun none => ?_, fun _ => ⟨u, rfl⟩⟩
    contradiction
  | succ room =>
    obtain ⟨enough, little⟩ := inner room
    rw [if_neg (Nat.succ_ne_zero room), Nat.add_sub_cancel]
    exact ⟨fun h => enough (by omega), fun h => little (by omega)⟩

end Needs

/-! ## Values -/

/-- A name greater than all others goes to the end. -/
theorem insertMember_last {key : String} {v : Value} {members : List (String × Value)}
    (last : ∀ m ∈ members, m.1 < key) :
    Value.insertMember key v members = members ++ [(key, v)] := by
  induction members with
  | nil => rfl
  | cons m ms ih =>
    have above := last m List.mem_cons_self
    have others := ih fun n member => last n (List.mem_cons_of_mem m member)
    have notBelow : ¬ key < m.1 := String.lt_asymm above
    have notSame : key ≠ m.1 := by
      intro same
      exact String.lt_irrefl key (same ▸ above)
    simp only [Value.insertMember, notBelow, notSame, if_false, others, List.cons_append]

theorem below_of_sorted {key : String} {v : Value} {members rest : List (String × Value)}
    (sorted : ((members ++ (key, v) :: rest).map Prod.fst).Pairwise (· < ·)) :
    ∀ m ∈ members, m.1 < key := by
  rw [List.map_append, List.pairwise_append] at sorted
  intro m member
  exact sorted.2.2 m.1 (List.mem_map_of_mem member) key List.mem_cons_self

theorem readStage_name {room : Nat} {frames : List Frame} {members : List (String × Value)}
    {key : String} {t : Bytes} (free : members = [] → key ≠ textKey) :
    readStage room (.key members) frames (writeString key ++ 0x3A :: t)
      = readStage room .value (.object members key :: frames) t :=
  readStage_key (skipSpace_of_head rfl _) (readString_writeTail key (0x3A :: t))
    (skipSpace_of_head rfl t) free

mutual

theorem Value.readStage_write : ∀ {v : Value}, v.Exact → v.Free →
    ∀ {room : Nat} {frames : List Frame} {t : Bytes}, Ended t →
      Needs v.depth room (readStage room .value frames (v.write ++ t))
        (readStage room (.complete v) frames t)
  | .null, _, _, room, frames, t, _ => by
    refine needs_zero (readStage_word (skipSpace_of_head rfl _) ?_ (skipWord_append _ t))
    simp [wordValues]
  | .bool true, _, _, room, frames, t, _ => by
    refine needs_zero (readStage_word (skipSpace_of_head rfl _) ?_ (skipWord_append _ t))
    simp [wordValues]
  | .bool false, _, _, room, frames, t, _ => by
    refine needs_zero (readStage_word (skipSpace_of_head rfl _) ?_ (skipWord_append _ t))
    simp [wordValues]
  | .number (.integer i), ⟨least, greatest⟩, _, room, frames, t, ended => by
    have read := readNumber_integer least greatest ended
    obtain ⟨b, r, same, first, space⟩ := integer_first i t
    exact needs_zero (readStage_number space first (same ▸ read))
  | .string s, _, _, room, frames, t, _ =>
    needs_zero (readStage_string (skipSpace_of_head rfl _) (readString_writeTail s t))
  | .array [], _, _, room, frames, t, _ =>
    .bracketed .list (skipSpace_of_head rfl _) fun _ =>
      needs_zero (readStage_emptyList (skipSpace_of_head rfl t))
  | .array (v :: vs), ⟨exact, others⟩, ⟨free, frees⟩, room, frames, t, _ => by
    have written : (Value.array (v :: vs)).write ++ t
        = 0x5B :: (v.write ++ (Value.writeItems vs ++ t)) := by simp [Value.write]
    rw [written]
    refine .bracketed .list (skipSpace_of_head rfl _) fun room => ?_
    have ended := (isRest_writeItems vs).ended t
    have rest := (Value.readStage_write exact free ended).trans
      (@readStage_writeItems vs others frees room v [] frames t)
    refine rest.of_eq ?_
    obtain ⟨b, r, same, notBlank, notClose⟩ := v.isValue_write.item.head
    rw [same, List.cons_append]
    exact readStage_item (skipSpace_of_head notBlank _) notClose
  | .object [], _, _, room, frames, t, _ =>
    .bracketed .object (skipSpace_of_head rfl _) fun _ =>
      needs_zero (readStage_emptyObject (skipSpace_of_head rfl t))
  | .object ((k, v) :: vs), ⟨sorted, exact, others⟩, ⟨first, free, frees⟩, room, frames, t, _ => by
    have written : (Value.object ((k, v) :: vs)).write ++ t
        = 0x7B :: (writeString k ++ 0x3A :: (v.write ++ (Value.writeMembers vs ++ t))) := by
      simp [Value.write]
    rw [written]
    refine .bracketed .object (skipSpace_of_head rfl _) fun room => ?_
    have ended := (isRest_writeMembers vs).ended t
    have rest := (Value.readStage_write exact free ended).trans
      (@readStage_writeMembers vs others frees room v [] k frames t sorted)
    refine rest.of_eq ?_
    refine (readStage_member (skipSpace_of_head rfl _) (by decide)).trans ?_
    exact readStage_name fun _ => first (k, v) rfl

theorem readStage_writeItems : ∀ {vs : List Value}, Value.ExactItems vs → Value.FreeItems vs →
    ∀ {room : Nat} {x : Value} {items : List Value} {frames : List Frame} {t : Bytes},
      Needs (Value.depthItems vs) room
        (readStage room (.complete x) (.list items :: frames) (Value.writeItems vs ++ t))
        (readStage (room + 1) (.complete (.array (items.reverse ++ x :: vs))) frames t)
  | [], _, _, room, x, items, frames, t => by
    refine needs_zero ((readStage_closeList (skipSpace_of_head rfl t)).trans ?_)
    rw [List.reverse_cons]
  | v :: vs, ⟨exact, others⟩, ⟨free, frees⟩, room, x, items, frames, t => by
    have written : Value.writeItems (v :: vs) ++ t
        = 0x2C :: (v.write ++ (Value.writeItems vs ++ t)) := by simp [Value.writeItems]
    have ended := (isRest_writeItems vs).ended t
    have rest := (Value.readStage_write exact free ended).trans
      (@readStage_writeItems vs others frees room v (x :: items) frames t)
    rw [List.reverse_cons, List.append_assoc] at rest
    refine rest.of_eq ?_
    obtain ⟨b, r, same, notBlank, notClose⟩ := v.isValue_write.item.head
    rw [written, same, List.cons_append]
    exact readStage_nextItem (skipSpace_of_head rfl _) (skipSpace_of_head notBlank _) notClose

theorem readStage_writeMembers : ∀ {vs : List (String × Value)}, Value.ExactMembers vs →
    Value.FreeMembers vs → ∀ {room : Nat} {x : Value} {members : List (String × Value)}
      {key : String} {frames : List Frame} {t : Bytes},
      ((members ++ (key, x) :: vs).map Prod.fst).Pairwise (· < ·) →
      Needs (Value.depthMembers vs) room
        (readStage room (.complete x) (.object members key :: frames) (Value.writeMembers vs ++ t))
        (readStage (room + 1) (.complete (.object (members ++ (key, x) :: vs))) frames t)
  | [], _, _, room, x, members, key, frames, t, sorted => by
    refine needs_zero ((readStage_closeObject (skipSpace_of_head rfl t)).trans ?_)
    rw [insertMember_last (below_of_sorted sorted)]
  | (k, v) :: vs, ⟨exact, others⟩, ⟨free, frees⟩, room, x, members, key, frames, t, sorted => by
    have written : Value.writeMembers ((k, v) :: vs) ++ t
        = 0x2C :: (writeString k ++ 0x3A :: (v.write ++ (Value.writeMembers vs ++ t))) := by
      simp [Value.writeMembers]
    have ended := (isRest_writeMembers vs).ended t
    have regroup : members ++ (key, x) :: (k, v) :: vs
        = (members ++ [(key, x)]) ++ (k, v) :: vs := by simp
    have last := @insertMember_last key x members (below_of_sorted sorted)
    rw [regroup] at sorted ⊢
    have rest := (Value.readStage_write exact free ended).trans
      (@readStage_writeMembers vs others frees room v _ k frames t sorted)
    refine rest.of_eq ?_
    rw [written, ← last]
    refine (readStage_nextMember (skipSpace_of_head rfl _)).trans ?_
    refine readStage_name fun none => ?_
    simp [last] at none

end

/-! ## Texts of values -/

def Value.isNull : Value → Bool
  | .null => true
  | _ => false

theorem readValue_write {v : Value} (exact : v.Exact) (free : v.Free) {room : Nat} {t : Bytes}
    (ended : Ended t) : Needs v.depth room (readValue room (v.write ++ t)) (.ok (v, t)) := by
  have needs := @Value.readStage_write v exact free room [] t ended
  rwa [readStage_done] at needs

/-- Only `null` is written as `null`. -/
theorem Value.write_eq_null {v : Value} (exact : v.Exact) (free : v.Free) :
    v.write = nullText ↔ v.isNull = true := by
  constructor
  · intro written
    have some := (readValue_write exact free ended_nil).1 (Nat.le_refl v.depth)
    have null := (@readValue_write .null trivial trivial v.depth [] ended_nil).1 (Nat.zero_le _)
    rw [written] at some
    cases null.symm.trans some
    rfl
  · intro null
    cases v with
    | null => rfl
    | _ => contradiction

/-! ## The reserved name -/

theorem unexpected_integer {i : Int} (least : -2 ^ 63 ≤ i) (greatest : i < 2 ^ 64) {t : Bytes}
    (ended : Ended t) (expected : String) : unexpected expected (Decimal.integer i ++ t)
      = ⟨.unexpectedType (.integer i) expected, t, none⟩ := by
  have read := readNumber_integer least greatest ended
  obtain ⟨b, r, same, first, _⟩ := integer_first i t
  have notNull := @ne_of_first b 0x6E first (by decide)
  have notTrue := @ne_of_first b 0x74 first (by decide)
  have notFalse := @ne_of_first b 0x66 first (by decide)
  rw [same] at read ⊢
  simp only [unexpected, notNull, notTrue, notFalse, first, if_true, if_false, read]

/-- An integer under the reserved name is not read as one. -/
theorem readValue_reserved {i : Int} (least : -2 ^ 63 ≤ i) (greatest : i < 2 ^ 64) {room : Nat}
    (spacious : room ≠ 0) (t : Bytes) :
    readValue room ((Value.object [(textKey, .number (.integer i))]).write ++ t)
      = .error ⟨.unexpectedType (.integer i) "raw value", 0x7D :: t, none⟩ := by
  have written : (Value.object [(textKey, .number (.integer i))]).write ++ t
      = 0x7B :: (writeString textKey ++ 0x3A :: (Decimal.integer i ++ 0x7D :: t)) := by
    simp [Value.write, Value.writeMembers, Number.write]
  have ended : Ended (0x7D :: t) := ended_close .object t
  obtain ⟨b, r, same, first, space⟩ := integer_first i (0x7D :: t)
  have notQuote := @ne_of_first b 0x22 first (by decide)
  rw [written, readValue]
  refine (@readStage_open room [] _ _ .object (skipSpace_of_head rfl _)).trans ?_
  rw [if_neg spacious]
  refine (readStage_member (skipSpace_of_head rfl _) (by decide)).trans ?_
  refine (readStage_reserved (skipSpace_of_head rfl _) (readString_writeTail textKey _)
    (skipSpace_of_head rfl _) space notQuote).trans ?_
  rw [← same, unexpected_integer least greatest ended]

end Fanout.Json
