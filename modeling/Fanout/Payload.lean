import Fanout.Json.Raw

/-!
What an event can carry: any tree of values that has a JSON text, and some that have none. Writing
stops at the first part that cannot be written.
-/

namespace Fanout

open Text

/-- Why a payload has no JSON text. -/
inductive WriteFault where
  | keyNotString
  /-- The payload's own refusal. -/
  | refused (text : String)
  deriving DecidableEq, Repr

/-- The digits at the front of a text, and what follows them. -/
def splitNumber (s : List Char) : List Char × List Char :=
  (s.takeWhile Char.isDigit, s.dropWhile Char.isDigit)

/-- What follows `front` in a text. -/
def stripFront? (front s : List Char) : Option (List Char) :=
  if front.isPrefixOf s then some (s.drop front.length) else none

def sizeOfDigits? (ds : List Char) : Option Nat :=
  if ds ≠ [] ∧ Decimal.digitsValue ds < Nat.pow 2 64 then some (Decimal.digitsValue ds) else none

/-- A text that ends in a place, split at that end. -/
def splitPlace? (text : String) : Option (String × Json.Place) := do
  let (column, r) := splitNumber text.toList.reverse
  let r ← stripFront? " column ".toList.reverse r
  let (line, r) := splitNumber r
  let r ← stripFront? " at line ".toList.reverse r
  return (String.ofList r.reverse, ⟨← sizeOfDigits? line.reverse, ← sizeOfDigits? column.reverse⟩)

/-- A place at the end of a refusal is read as a place: its numbers lose leading zeros, and line 0
stands for no place at all. -/
def WriteFault.text : WriteFault → String
  | .keyNotString => Json.Cause.keyNotString.text
  | .refused text =>
    match splitPlace? text with
    | none => text
    | some (message, place) =>
      if place.line = 0 then message
      else s!"{message} at line {place.line} column {place.column}"

/-- The key of a map entry. -/
inductive Key where
  | text (s : String)
  | integer (i : Int)
  /-- A key that no member name can stand for. -/
  | compound
  deriving DecidableEq, Repr

def Key.write : Key → Except WriteFault Bytes
  | .text s => .ok (Json.writeString s)
  | .integer i => .ok (0x22 :: Decimal.integer i ++ [0x22])
  | .compound => .error .keyNotString

inductive Payload where
  | value (v : Json.Value)
  /-- The JSON text of a value, written as it stands. -/
  | raw (raw : Json.Raw)
  | float (x : Float)
  | single (x : Float32)
  | integer (i : Int)
  | list (items : List Payload)
  | map (entries : List (Key × Payload))
  | refusing (text : String)

namespace Payload

/-- Numbers that are not finite are written as `null`. -/
def writeReal (layout : Decimal.Layout) (x : Decimal.Binary) : Bytes :=
  (layout.write? x).getD Json.Value.null.write

mutual

def write : Payload → Except WriteFault Bytes
  | .value v => .ok v.write
  | .raw json => .ok json.text
  | .float x => .ok (writeReal Json.floatLayout (.ofFloat x))
  | .single x => .ok (writeReal Json.singleLayout (.ofFloat32 x))
  | .integer i => .ok (Decimal.integer i)
  | .list [] => .ok [0x5B, 0x5D]
  | .list (p :: ps) => do return 0x5B :: (← p.write) ++ (← writeItems ps)
  | .map [] => .ok [0x7B, 0x7D]
  | .map ((k, p) :: ps) => do
    return 0x7B :: (← k.write) ++ 0x3A :: (← p.write) ++ (← writeEntries ps)
  | .refusing text => .error (.refused text)

def writeItems : List Payload → Except WriteFault Bytes
  | [] => .ok [0x5D]
  | p :: ps => do return 0x2C :: (← p.write) ++ (← writeItems ps)

def writeEntries : List (Key × Payload) → Except WriteFault Bytes
  | [] => .ok [0x7D]
  | (k, p) :: ps => do return 0x2C :: (← k.write) ++ 0x3A :: (← p.write) ++ (← writeEntries ps)

end

end Payload

end Fanout
