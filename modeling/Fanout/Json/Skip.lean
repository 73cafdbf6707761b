import Fanout.Json.Token

/-!
Passing over a value without reading it. The brackets that are open stand on a stack, so that no
depth is too great; numbers are not evaluated and strings are not decoded.
-/

namespace Fanout.Json

open Text

inductive Bracket where
  | list
  | object
  deriving DecidableEq, Repr

def Bracket.close : Bracket → UInt8
  | .list => 0x5D
  | .object => 0x7D

def Bracket.ends : Bracket → Cause
  | .list => .listEnds
  | .object => .objectEnds

def Bracket.expectedComma : Bracket → Cause
  | .list => .expectedCommaInList
  | .object => .expectedCommaInObject

/-- What is due in the innermost open bracket. -/
inductive Due where
  /-- Its first item or its end. -/
  | start
  | key
  | value
  /-- A comma or its end; outside all brackets the value is complete. -/
  | next
  deriving DecidableEq, Repr

/-- What an item starts with. -/
def Bracket.item : Bracket → Due
  | .list => .value
  | .object => .key

def Due.rank : Due → Nat
  | .start => 1
  | _ => 0

theorem rank_item (bracket : Bracket) : bracket.item.rank = 0 := by
  cases bracket <;> rfl

/-- Passes over what the brackets `inside` still want, innermost first. -/
def skipDue (due : Due) (inside : List Bracket) (s : Bytes) : Except Fault Bytes :=
  match due, inside with
  | .value, _ =>
    match space : skipSpace s with
    | [] => fail .valueEnds []
    | b :: r =>
      have := skipSpace_cons space
      if b = 0x22 then
        match string : skipString r with
        | .ok r' => have := skipString_length string; skipDue .next inside r'
        | .error f => .error f
      else if b = 0x2D ∨ isDigit b then
        match number : numeral .invalidNumber (b :: r) with
        | .ok (_, r') =>
          have := numeral_length number
          have := skipSpace_length s
          have : (b :: r).length ≤ s.length := by rw [← space]; assumption
          skipDue .next inside r'
        | .error f => .error f
      else if b = 0x5B then skipDue .start (.list :: inside) r
      else if b = 0x7B then skipDue .start (.object :: inside) r
      else if b = 0x6E then
        match word : skipWord [0x75, 0x6C, 0x6C] r with
        | .ok r' => have := skipWord_length word; skipDue .next inside r'
        | .error f => .error f
      else if b = 0x74 then
        match word : skipWord [0x72, 0x75, 0x65] r with
        | .ok r' => have := skipWord_length word; skipDue .next inside r'
        | .error f => .error f
      else if b = 0x66 then
        match word : skipWord [0x61, 0x6C, 0x73, 0x65] r with
        | .ok r' => have := skipWord_length word; skipDue .next inside r'
        | .error f => .error f
      else fail .expectedValue r
  | .key, _ =>
    match space : skipSpace s with
    | [] => fail .objectEnds []
    | b :: r =>
      have := skipSpace_cons space
      if b = 0x22 then
        match string : skipString r with
        | .error f => .error f
        | .ok r' =>
          have := skipString_length string
          match space' : skipSpace r' with
          | [] => fail .objectEnds []
          | c :: r'' =>
            have := skipSpace_cons space'
            if c = 0x3A then skipDue .value inside r'' else fail .expectedColon r''
      else fail .keyNotString r
  | .start, [] => skipDue .value [] s
  | .start, bracket :: outer =>
    match space : skipSpace s with
    | [] => fail bracket.ends []
    | b :: r =>
      have := skipSpace_cons space
      have := rank_item bracket
      have : (b :: r).length ≤ s.length := by rw [← space]; exact skipSpace_length s
      if b = bracket.close then skipDue .next outer r
      else skipDue bracket.item (bracket :: outer) (b :: r)
  | .next, [] => .ok s
  | .next, bracket :: outer =>
    match space : skipSpace s with
    | [] => fail bracket.ends []
    | b :: r =>
      have := skipSpace_cons space
      if b = 0x2C then skipDue bracket.item (bracket :: outer) r
      else if b = bracket.close then skipDue .next outer r
      else fail bracket.expectedComma r
termination_by (s.length, due.rank)
decreasing_by
  all_goals simp_wf
  all_goals simp only [Due.rank, Prod.lex_def, true_and] at *
  all_goals omega

/-- Passes over one value, with the blanks before it. -/
def skipValue (s : Bytes) : Except Fault Bytes := skipDue .value [] s

theorem skipDue_length {due : Due} {inside : List Bracket} {s r : Bytes}
    (h : skipDue due inside s = .ok r) : r.length ≤ s.length := by
  fun_induction skipDue due inside s <;> simp_all [fail] <;> omega

end Fanout.Json
