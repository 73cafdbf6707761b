import Fanout.Text.Ascii

/-!
Percent encoding: a percent sign and two hexadecimal digits stand for a byte. In forms a plus sign
also stands for a blank, and names and values come in pairs.
-/

namespace Fanout.Text

/-- Decodes what is encoded. A percent sign that no two digits follow stands for itself. -/
def percentDecode : Bytes → Bytes
  | 0x25 :: a :: b :: r =>
    match hexValue? a, hexValue? b with
    | some high, some low => UInt8.ofNat (high * 16 + low) :: percentDecode r
    | _, _ => 0x25 :: percentDecode (a :: b :: r)
  | c :: r => c :: percentDecode r
  | [] => []
termination_by s => s.length

/-- Decodes a name or value of a form. -/
def formDecode (s : Bytes) : String :=
  Utf8.replaceBroken (percentDecode (s.map fun b => if b = 0x2B then 0x20 else b))

/-- The parts of a list between the bytes equal to `mark`. -/
def splitAt (mark : UInt8) : Bytes → List Bytes
  | [] => [[]]
  | b :: r =>
    if b = mark then [] :: splitAt mark r
    else
      match splitAt mark r with
      | [] => [[b]]
      | part :: parts => (b :: part) :: parts

/-- The part before the first `mark` and the part behind it, which is empty where there is none. -/
def cutAt (mark : UInt8) (s : Bytes) : Bytes × Bytes :=
  (s.takeWhile (· != mark), (s.dropWhile (· != mark)).drop 1)

/-- The pairs of names and values in a form. -/
def formPairs (s : Bytes) : List (String × String) :=
  ((splitAt 0x26 s).filter (!·.isEmpty)).map fun pair =>
    let (name, value) := cutAt 0x3D pair
    (formDecode name, formDecode value)

end Fanout.Text
