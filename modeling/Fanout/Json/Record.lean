import Fanout.Json.Skip
import Fanout.Json.Value

/-!
Records in JSON text. A record is an object whose members are fields in any order, among members
that are passed over, or a list of its fields in their order; a field that has a default may be
missing. A `Schema` says how the fields are read and what they make.
-/

namespace Fanout.Json

open Text

/-- A reader of something, which leaves no more than it was given. -/
structure Reader (α : Type) where
  run : Bytes → Except Fault (α × Bytes)
  run_length : ∀ {s r : Bytes} {a : α}, run s = .ok (a, r) → r.length ≤ s.length

namespace Reader

def readText (s : Bytes) : Except Fault (String × Bytes) :=
  match skipSpace s with
  | [] => fail .valueEnds []
  | b :: r => if b = 0x22 then readString r else .error (unexpected "a string" (b :: r))

theorem readText_length {s r : Bytes} {t : String} (h : readText s = .ok (t, r)) :
    r.length ≤ s.length := by
  unfold readText at h
  split at h
  · simp [fail] at h
  · rename_i space
    have := skipSpace_cons space
    split at h
    · have := readString_length h; omega
    · simp at h

/-- A string and nothing else. -/
def text : Reader String := ⟨readText, readText_length⟩

/-- Any value, of which nothing is kept. -/
def skipped : Reader Unit where
  run s := (skipValue s).map ((), ·)
  run_length h := by
    simp only [Except.map] at h
    split at h
    · simp at h
    · rename_i skip
      simp only [Except.ok.injEq, Prod.mk.injEq, true_and] at h
      exact h ▸ skipDue_length skip

/-- A value that is read in full. -/
def value (room : Nat) : Reader Value := ⟨readValue room, readStage_length⟩

/-- The text of a value as it stands, without the blanks around it. It has to be UTF-8. -/
def readRaw (s : Bytes) : Except Fault (Bytes × Bytes) :=
  match skipValue (skipSpace s) with
  | .error f => .error f
  | .ok r =>
    let raw := (skipSpace s).take ((skipSpace s).length - r.length)
    match Utf8.decode raw with
    | .ok _ => .ok (raw, r)
    | .error broken => fail .invalidCodePoint (broken.drop 1 ++ r)

theorem readRaw_length {s r raw : Bytes} (h : readRaw s = .ok (raw, r)) :
    r.length ≤ s.length := by
  unfold readRaw at h
  split at h
  · simp at h
  · rename_i skip
    have := skipDue_length skip
    have := skipSpace_length s
    simp only at h
    split at h
    · simp only [Except.ok.injEq, Prod.mk.injEq] at h
      rw [← h.2]
      omega
    · simp [fail] at h

def raw : Reader Bytes := ⟨readRaw, readRaw_length⟩

def readOptional {α : Type} (reader : Reader α) (s : Bytes) : Except Fault (Option α × Bytes) :=
  match skipSpace s with
  | 0x6E :: r => (skipWord [0x75, 0x6C, 0x6C] r).map (none, ·)
  | _ => (reader.run s).map fun (a, r) => (some a, r)

theorem readOptional_length {α : Type} {reader : Reader α} {s r : Bytes} {a : Option α}
    (h : readOptional reader s = .ok (a, r)) : r.length ≤ s.length := by
  unfold readOptional at h
  split at h
  · rename_i space
    have := skipSpace_cons space
    simp only [Except.map] at h
    split at h
    · simp at h
    · rename_i word
      have := skipWord_length word
      simp only [Except.ok.injEq, Prod.mk.injEq] at h
      rw [← h.2]
      omega
  · simp only [Except.map] at h
    split at h
    · simp at h
    · rename_i read
      have := reader.run_length read
      simp only [Except.ok.injEq, Prod.mk.injEq] at h
      rw [← h.2]
      omega

/-- A value, or `null` for none. -/
def optional {α : Type} (reader : Reader α) : Reader (Option α) :=
  ⟨readOptional reader, readOptional_length⟩

end Reader

/-- A field, in terms of the fields read so far. -/
structure Field (Parts : Type) where
  name : String
  isSet : Parts → Bool
  reader : Parts → Reader Parts

/-- The field that `get` and `set` give access to. -/
def Field.of {Parts α : Type} (name : String) (get : Parts → Option α) (set : Parts → α → Parts)
    (reader : Reader α) : Field Parts where
  name
  isSet parts := (get parts).isSome
  reader parts :=
    { run := fun s => (reader.run s).map fun (a, r) => (set parts a, r)
      run_length := fun h => by
        simp only [Except.map] at h
        split at h
        · simp at h
        · rename_i read
          simp only [Except.ok.injEq, Prod.mk.injEq] at h
          exact h.2 ▸ reader.run_length read }

structure Schema (Parts Whole : Type) where
  title : String
  blank : Parts
  fields : List (Field Parts)
  /-- The record that the fields make, or the name of one that is missing. -/
  build : Parts → Except String Whole

/-- The colon behind the name of a member. -/
def skipColon (s : Bytes) : Except Fault Bytes :=
  match skipSpace s with
  | [] => fail .objectEnds []
  | b :: r => if b = 0x3A then .ok r else fail .expectedColon r

theorem skipColon_length {s r : Bytes} (h : skipColon s = .ok r) : r.length ≤ s.length := by
  unfold skipColon at h
  split at h
  · simp [fail] at h
  · rename_i space
    have := skipSpace_cons space
    split at h
    · simp only [Except.ok.injEq] at h
      rw [← h]
      omega
    · simp [fail] at h

/-- What follows the blanks, and the bracket that ends an object if it comes next. -/
def pastClose (s : Bytes) : Bytes :=
  match skipSpace s with
  | 0x7D :: r => r
  | r => r

/-- What stands before the first member or item of a record, or before another one. -/
inductive Turn where
  | first
  | later
  deriving DecidableEq, Repr

def memberName : Bytes → Except Fault (Option String × Bytes)
  | [] => fail .valueEnds []
  | b :: r =>
    if b = 0x22 then (readString r).map fun (key, r') => (some key, r')
    else if b = 0x7D then fail .trailingComma r
    else fail .keyNotString r

theorem memberName_length {s r : Bytes} {key : Option String}
    (h : memberName s = .ok (key, r)) : r.length < s.length := by
  unfold memberName at h
  split at h
  · simp [fail] at h
  · split at h
    · simp only [Except.map] at h
      split at h
      · simp at h
      · rename_i read
        have := readString_length read
        simp only [Except.ok.injEq, Prod.mk.injEq] at h
        rw [← h.2, List.length_cons]
        omega
    · split at h <;> simp [fail] at h

/-- Goes on to the name of the next member. There is none if the object ends, and then the bytes
behind its bracket follow. -/
def nextMember (turn : Turn) (s : Bytes) : Except Fault (Option String × Bytes) :=
  match skipSpace s with
  | [] => fail .objectEnds []
  | b :: r =>
    if b = 0x7D then .ok (none, r)
    else
      match turn with
      | .first => memberName (b :: r)
      | .later => if b = 0x2C then memberName (skipSpace r) else fail .expectedCommaInObject r

/-- Whether a further item of a list follows, and the bytes from it on; otherwise the bytes behind
the list. -/
def nextItem (turn : Turn) (s : Bytes) : Except Fault (Bool × Bytes) :=
  match skipSpace s with
  | [] => fail .listEnds []
  | b :: r =>
    if b = 0x5D then .ok (false, r)
    else
      match turn with
      | .first => .ok (true, b :: r)
      | .later =>
        if b = 0x2C then
          match skipSpace r with
          | [] => fail .valueEnds []
          | c :: r' => if c = 0x5D then fail .trailingComma r' else .ok (true, c :: r')
        else fail .expectedCommaInList r

/-- The end of a list that must have no further item. -/
def endItems (s : Bytes) : Except Fault Bytes :=
  match skipSpace s with
  | [] => fail .listEnds []
  | b :: r =>
    if b = 0x5D then .ok r
    else if b = 0x2C then
      match skipSpace r with
      | 0x5D :: r' => fail .trailingComma r'
      | r' => fail .trailingCharacters (r'.drop 1)
    else fail .trailingCharacters r

theorem nextMember_length {turn : Turn} {s r : Bytes} {key : Option String}
    (h : nextMember turn s = .ok (key, r)) : r.length < s.length := by
  unfold nextMember at h
  split at h
  · simp [fail] at h
  · rename_i b t space
    have := skipSpace_cons space
    have bound : (b :: t).length ≤ s.length := by rw [← space]; exact skipSpace_length s
    split at h
    · simp only [Except.ok.injEq, Prod.mk.injEq] at h
      rw [← h.2]
      assumption
    · split at h
      · have := memberName_length h; omega
      · split at h
        · have := memberName_length h
          have := skipSpace_length t
          omega
        · simp [fail] at h

variable {Parts Whole : Type}

/-- Reads the members that are still to come, to the end of the object. -/
def Schema.readMembers (schema : Schema Parts Whole) (turn : Turn) (parts : Parts) (s : Bytes) :
    Except Fault (Whole × Bytes) :=
  match member : nextMember turn s with
  | .error f => .error f
  | .ok (none, r) =>
    match schema.build parts with
    | .ok whole => .ok (whole, r)
    | .error name => fail (.missingField name) r
  | .ok (some key, r) =>
    have := nextMember_length member
    match schema.fields.find? (·.name = key) with
    | some field =>
      if field.isSet parts then fail (.duplicateField key) (pastClose r)
      else
        match colon : skipColon r with
        | .error f => .error f
        | .ok r' =>
          have := skipColon_length colon
          match read : (field.reader parts).run r' with
          | .error f => .error f
          | .ok (parts, r'') =>
            have := (field.reader _).run_length read
            schema.readMembers .later parts r''
    | none =>
      match colon : skipColon r with
      | .error f => .error f
      | .ok r' =>
        have := skipColon_length colon
        match skip : skipValue r' with
        | .error f => .error f
        | .ok r'' =>
          have := skipDue_length skip
          schema.readMembers .later parts r''
termination_by s.length

/-- Reads the items for these fields, to the end of the list. -/
def Schema.readItems (schema : Schema Parts Whole) (turn : Turn) (parts : Parts) :
    List (Field Parts) → Bytes → Except Fault (Whole × Bytes)
  | [], s =>
    match endItems s with
    | .error f => .error f
    | .ok r =>
      match schema.build parts with
      | .ok whole => .ok (whole, r)
      | .error name => fail (.missingField name) r
  | field :: fields, s =>
    match nextItem turn s with
    | .error f => .error f
    | .ok (false, r) =>
      match schema.build parts with
      | .ok whole => .ok (whole, r)
      | .error name =>
        fail (.tooFewElements (schema.fields.findIdx (·.name = name)) schema.title
          schema.fields.length) r
    | .ok (true, r) =>
      match (field.reader parts).run r with
      | .error f => .error f
      | .ok (parts, r') => schema.readItems .later parts fields r'

/-- Reads a record from the front of a text. -/
def Schema.read (schema : Schema Parts Whole) (s : Bytes) : Except Fault (Whole × Bytes) :=
  match skipSpace s with
  | [] => fail .valueEnds []
  | b :: r =>
    if b = 0x5B then schema.readItems .first schema.blank schema.fields r
    else if b = 0x7B then schema.readMembers .first schema.blank r
    else .error (unexpected s!"struct {schema.title}" (b :: r))

def Schema.ofText (schema : Schema Parts Whole) (s : Bytes) : Except Fault Whole :=
  whole schema.read s

end Fanout.Json
