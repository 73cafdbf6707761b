import Fanout.Text.Percent
import Fanout.Text.Quoted

/-!
Internet addresses of version six: reading any of their spellings, and their shortest text, in which
the first of the longest runs of zeros is left out.
-/

namespace Fanout.Ipv6

open Text

/-- A number from one to four hexadecimal digits. -/
def group? (s : Bytes) : Option Nat :=
  if s.isEmpty || 4 < s.length then none
  else s.foldlM (fun n b => (hexValue? b).map (n * 16 + ·)) 0

/-- A decimal number below 256 without leading zeros. -/
def octet? (s : Bytes) : Option Nat :=
  if s.isEmpty || 3 < s.length || !s.all isDigit || (1 < s.length && s.head? = some 0x30) then none
  else if decimal s < 256 then some (decimal s)
  else none

/-- The two groups that an address of version four makes. -/
def embedded? (s : Bytes) : Option (List Nat) :=
  match splitAt 0x2E s with
  | [a, b, c, d] => do
    return [(← octet? a) * 256 + (← octet? b), (← octet? c) * 256 + (← octet? d)]
  | _ => none

/-- Groups with colons between them, of which the last may be an address of version four. -/
def groups? : List Bytes → Option (List Nat)
  | [] => some []
  | [s] => if s.contains 0x2E then embedded? s else (group? s).map ([·])
  | s :: parts => do return (← group? s) :: (← groups? parts)

def side? (s : Bytes) : Option (List Nat) := if s.isEmpty then some [] else groups? (splitAt 0x3A s)

/-- What stands before and behind the first two colons in a row. -/
def cutDouble? : Bytes → Option (Bytes × Bytes)
  | 0x3A :: 0x3A :: r => some ([], r)
  | b :: r => (cutDouble? r).map fun (left, right) => (b :: left, right)
  | [] => none

/-- The eight groups of an address. -/
def ofBytes? (s : Bytes) : Option (List Nat) :=
  match cutDouble? s with
  | none => do
    let groups ← side? s
    if groups.length = 8 then some groups else none
  | some (left, right) => do
    if left.contains 0x2E then none
    let left ← side? left
    let right ← side? right
    if left.length + right.length ≤ 7 then
      some (left ++ List.replicate (8 - left.length - right.length) 0 ++ right)
    else none

def groupsText (groups : List Nat) : String :=
  String.intercalate ":" (groups.map fun n => String.ofList (hexDigits n))

/-- How many zeros stand at the front. -/
def zeros (groups : List Nat) : Nat := (groups.takeWhile (· = 0)).length

/-- The start and the length of the first longest run of zeros. -/
def longestRun (groups : List Nat) : Nat × Nat :=
  (List.range groups.length).foldl
    (fun best start =>
      let length := zeros (groups.drop start)
      if best.2 < length then (start, length) else best)
    (0, 0)

def text (groups : List Nat) : String :=
  match groups with
  | [0, 0, 0, 0, 0, 0xFFFF, high, low] =>
    s!"::ffff:{high / 256}.{high % 256}.{low / 256}.{low % 256}"
  | _ =>
    let (start, length) := longestRun groups
    if length < 2 then groupsText groups
    else groupsText (groups.take start) ++ "::" ++ groupsText (groups.drop (start + length))

end Fanout.Ipv6
