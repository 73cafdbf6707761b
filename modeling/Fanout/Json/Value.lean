import Fanout.Json.Number
import Fanout.Json.Strings

/-!
JSON values, their text, and reading them back. An object has its members sorted by name, each name
once. The reader keeps the open brackets on a stack of bounded depth, so that its recursion is on
the text alone.
-/

namespace Fanout.Json

open Text

inductive Value where
  | null
  | bool (b : Bool)
  | number (n : Number)
  | string (s : String)
  | array (items : List Value)
  | object (members : List (String × Value))

namespace Value

mutual

def beq : Value → Value → Bool
  | .null, .null => true
  | .bool a, .bool b => a == b
  | .number a, .number b => a == b
  | .string a, .string b => a == b
  | .array a, .array b => beqItems a b
  | .object a, .object b => beqMembers a b
  | _, _ => false

def beqItems : List Value → List Value → Bool
  | [], [] => true
  | v :: vs, w :: ws => v.beq w && beqItems vs ws
  | _, _ => false

def beqMembers : List (String × Value) → List (String × Value) → Bool
  | [], [] => true
  | (j, v) :: vs, (k, w) :: ws => j == k && v.beq w && beqMembers vs ws
  | _, _ => false

end

instance : BEq Value := ⟨beq⟩

mutual

def write : Value → Bytes
  | .null => [0x6E, 0x75, 0x6C, 0x6C]
  | .bool true => [0x74, 0x72, 0x75, 0x65]
  | .bool false => [0x66, 0x61, 0x6C, 0x73, 0x65]
  | .number n => n.write
  | .string s => writeString s
  | .array [] => [0x5B, 0x5D]
  | .array (v :: vs) => 0x5B :: v.write ++ writeItems vs
  | .object [] => [0x7B, 0x7D]
  | .object ((k, v) :: vs) => 0x7B :: writeString k ++ 0x3A :: v.write ++ writeMembers vs

/-- The items behind the first one, and the bracket that ends them. -/
def writeItems : List Value → Bytes
  | [] => [0x5D]
  | v :: vs => 0x2C :: v.write ++ writeItems vs

def writeMembers : List (String × Value) → Bytes
  | [] => [0x7D]
  | (k, v) :: vs => 0x2C :: writeString k ++ 0x3A :: v.write ++ writeMembers vs

end

/-- Puts a member where its name belongs, in the place of one of that name. -/
def insertMember (key : String) (v : Value) : List (String × Value) → List (String × Value)
  | [] => [(key, v)]
  | (k, w) :: ms =>
    if key < k then (key, v) :: (k, w) :: ms
    else if key = k then (key, v) :: ms
    else (k, w) :: insertMember key v ms

end Value

/-- How many brackets may be open in a text that is read in full. -/
def maxDepth : Nat := 127

/-- An object whose first member has this name stands for the value whose text is that member's
string, and has no other member. -/
def textKey : String := "$serde_json::private::RawValue"

/-- What was found where a value of another type is expected. A scalar has been read; the bracket of
a list or an object has not. -/
def unexpected (expected : String) (s : Bytes) : Fault :=
  let found (what : Found) (rest : Bytes) : Fault := ⟨.unexpectedType what expected, rest, none⟩
  match s with
  | [] => ⟨.valueEnds, [], none⟩
  | b :: r =>
    if b = 0x6E then
      match skipWord [0x75, 0x6C, 0x6C] r with
      | .ok r' => found .null r'
      | .error f => f
    else if b = 0x74 then
      match skipWord [0x72, 0x75, 0x65] r with
      | .ok r' => found (.bool true) r'
      | .error f => f
    else if b = 0x66 then
      match skipWord [0x61, 0x6C, 0x73, 0x65] r with
      | .ok r' => found (.bool false) r'
      | .error f => f
    else if b = 0x2D ∨ isDigit b then
      match readNumber s with
      | .ok (.integer i, r') => found (.integer i) r'
      | .ok (.float x, r') => found (.float x) r'
      | .error f => f
    else if b = 0x22 then
      match readString r with
      | .ok (t, r') => found (.string t) r'
      | .error f => f
    else if b = 0x5B then found .sequence s
    else if b = 0x7B then found .map s
    else ⟨.expectedValue, r, none⟩

/-- An open bracket with what has been read inside it. -/
inductive Frame where
  /-- The items, last one first. -/
  | list (items : List Value)
  /-- The members before the one with this name, whose value is due. -/
  | object (members : List (String × Value)) (key : String)

/-- Where a reader stands. -/
inductive Stage where
  /-- Before a value. -/
  | value
  /-- Behind a value. -/
  | complete (v : Value)
  /-- Behind the bracket that opens a list. -/
  | list
  /-- Behind the bracket that opens an object. -/
  | object
  /-- Before the name of a member that follows these. -/
  | key (members : List (String × Value))

def Stage.rank : Stage → Nat
  | .list | .object => 1
  | _ => 0

/-- Reads the rest of a value, inside the open brackets `frames` (innermost first), when `room` more
brackets may be opened. -/
def readStage (room : Nat) (stage : Stage) (frames : List Frame) (s : Bytes) :
    Except Fault (Value × Bytes) :=
  match stage, frames with
  | .value, _ =>
    match space : skipSpace s with
    | [] => fail .valueEnds []
    | b :: r =>
      have := skipSpace_cons space
      if b = 0x22 then
        match string : readString r with
        | .error f => .error f
        | .ok (t, r') =>
          have := readString_length string
          readStage room (.complete (.string t)) frames r'
      else if b = 0x2D ∨ isDigit b then
        match number : readNumber (b :: r) with
        | .error f => .error f
        | .ok (n, r') =>
          have := readNumber_length number
          have : (b :: r).length ≤ s.length := by rw [← space]; exact skipSpace_length s
          readStage room (.complete (.number n)) frames r'
      else if b = 0x5B then
        if room = 0 then fail .nestedTooDeep r else readStage (room - 1) .list frames r
      else if b = 0x7B then
        if room = 0 then fail .nestedTooDeep r else readStage (room - 1) .object frames r
      else if b = 0x6E then
        match word : skipWord [0x75, 0x6C, 0x6C] r with
        | .error f => .error f
        | .ok r' => have := skipWord_length word; readStage room (.complete .null) frames r'
      else if b = 0x74 then
        match word : skipWord [0x72, 0x75, 0x65] r with
        | .error f => .error f
        | .ok r' => have := skipWord_length word; readStage room (.complete (.bool true)) frames r'
      else if b = 0x66 then
        match word : skipWord [0x61, 0x6C, 0x73, 0x65] r with
        | .error f => .error f
        | .ok r' => have := skipWord_length word; readStage room (.complete (.bool false)) frames r'
      else fail .expectedValue r
  | .list, _ =>
    match space : skipSpace s with
    | [] => fail .listEnds []
    | b :: r =>
      have := skipSpace_cons space
      have : (b :: r).length ≤ s.length := by rw [← space]; exact skipSpace_length s
      if b = 0x5D then readStage (room + 1) (.complete (.array [])) frames r
      else readStage room .value (.list [] :: frames) (b :: r)
  | .object, _ =>
    match space : skipSpace s with
    | [] => fail .objectEnds []
    | b :: r =>
      have := skipSpace_cons space
      have : (b :: r).length ≤ s.length := by rw [← space]; exact skipSpace_length s
      if b = 0x7D then readStage (room + 1) (.complete (.object [])) frames r
      else readStage room (.key []) frames (b :: r)
  | .key members, _ =>
    match space : skipSpace s with
    | [] => fail .valueEnds []
    | b :: r =>
      have := skipSpace_cons space
      if b = 0x22 then
        match name : readString r with
        | .error f => .error f
        | .ok (key, r') =>
          have := readString_length name
          match colon : skipSpace r' with
          | [] => fail .objectEnds []
          | c :: r'' =>
            have := skipSpace_cons colon
            if c = 0x3A then
              if members.isEmpty ∧ key = textKey then
                match space' : skipSpace r'' with
                | [] => fail .valueEnds []
                | d :: t =>
                  have := skipSpace_cons space'
                  if d = 0x22 then
                    match string : readString t with
                    | .error f => .error f
                    | .ok (text, t') =>
                      have := readString_size string
                      match readStage maxDepth .value [] (Utf8.encode text) with
                      | .error f => .error (f.held (Utf8.encode text) t')
                      | .ok (v, after) =>
                        match skipSpace after with
                        | _ :: after =>
                          .error (Fault.held ⟨.trailingCharacters, after, none⟩
                            (Utf8.encode text) t')
                        | [] =>
                          match brace : skipSpace t' with
                          | [] => fail .objectEnds []
                          | e :: u =>
                            have := skipSpace_cons brace
                            if e = 0x7D then readStage (room + 1) (.complete v) frames u
                            else if e = 0x2C then fail .trailingComma u
                            else fail .trailingCharacters u
                  else .error (unexpected "raw value" (d :: t))
              else readStage room .value (.object members key :: frames) r''
            else fail .expectedColon r''
      else if b = 0x7D then fail .trailingComma r
      else fail .keyNotString r
  | .complete v, [] => .ok (v, s)
  | .complete v, .list items :: outer =>
    match space : skipSpace s with
    | [] => fail .listEnds []
    | b :: r =>
      have := skipSpace_cons space
      if b = 0x5D then readStage (room + 1) (.complete (.array (v :: items).reverse)) outer r
      else if b = 0x2C then
        match space' : skipSpace r with
        | [] => fail .valueEnds []
        | c :: r' =>
          have : (c :: r').length ≤ r.length := by rw [← space']; exact skipSpace_length r
          if c = 0x5D then fail .trailingComma r'
          else readStage room .value (.list (v :: items) :: outer) (c :: r')
      else fail .expectedCommaInList r
  | .complete v, .object members key :: outer =>
    match space : skipSpace s with
    | [] => fail .objectEnds []
    | b :: r =>
      have := skipSpace_cons space
      let members := Value.insertMember key v members
      if b = 0x7D then readStage (room + 1) (.complete (.object members)) outer r
      else if b = 0x2C then readStage room (.key members) outer r
      else fail .expectedCommaInObject r
termination_by (s.length, stage.rank)
decreasing_by
  all_goals simp_wf
  all_goals simp only [Stage.rank, Prod.lex_def, List.length_cons] at *
  all_goals omega

/-- Reads one value, with the blanks before it, when `room` brackets may be opened. -/
def readValue (room : Nat) (s : Bytes) : Except Fault (Value × Bytes) := readStage room .value [] s

theorem readStage_length {room : Nat} {stage : Stage} {frames : List Frame} {s r : Bytes}
    {v : Value} (h : readStage room stage frames s = .ok (v, r)) : r.length ≤ s.length := by
  fun_induction readStage room stage frames s with
  | case41 _ _ _ _ _ _ _ _ ih => have := ih h; omega
  | _ => simp_all [fail] <;> omega

/-- What a reader makes of a text that holds nothing else. -/
def whole {α : Type} (read : Bytes → Except Fault (α × Bytes)) (s : Bytes) : Except Fault α :=
  match read s with
  | .error f => .error f
  | .ok (a, r) =>
    match skipSpace r with
    | [] => .ok a
    | _ :: r => fail .trailingCharacters r

/-- Reads a text that is one value, when `room` brackets may be opened. -/
def Value.ofText (room : Nat) (s : Bytes) : Except Fault Value := whole (readValue room) s

end Fanout.Json
