import Fanout.Text.Utf8

/-!
The ASCII bytes that formats are built from: digits, hexadecimal digits, and texts made of them.
-/

namespace Fanout.Text

def isDigit (b : UInt8) : Bool := 0x30 ≤ b && b ≤ 0x39

/-- For a byte that is a digit. -/
def digitValue (b : UInt8) : Nat := b.toNat - 0x30

def hexValue? (b : UInt8) : Option Nat :=
  if isDigit b then some (b.toNat - 0x30)
  else if 0x61 ≤ b ∧ b ≤ 0x66 then some (b.toNat - 0x57)
  else if 0x41 ≤ b ∧ b ≤ 0x46 then some (b.toNat - 0x37)
  else none

/-- The text of bytes below 0x80. -/
def ascii (s : Bytes) : String := String.ofList (s.map fun b => Char.ofNat b.toNat)

/-- The number that decimal digits denote. -/
def decimal (ds : Bytes) : Nat := ds.foldl (fun n d => n * 10 + digitValue d) 0

end Fanout.Text
