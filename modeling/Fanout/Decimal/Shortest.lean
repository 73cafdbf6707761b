import Fanout.Decimal.Binary

/-!
The fewest decimal digits that read back as a given binary number, and among those the decimal
nearest to it. The search is exact: the decimals that round to the number form an interval, closed
if the significand is even, and a decimal grid is searched for its points in that interval, the
coarsest grid first.
-/

namespace Fanout.Decimal

/-- The decimal `coefficient * 10 ^ exponent`. -/
structure Scientific where
  coefficient : Nat
  exponent : Int
  deriving DecidableEq, Repr

/-- A point of the grid `10 ^ exponent` as a multiple of a quarter of the magnitude's last binary
place: `coefficient * tens` against `quarters * twos`. -/
structure Grid where
  exponent : Int
  tens : Nat
  twos : Nat

def Magnitude.grid (m : Magnitude) (exponent : Int) : Grid :=
  let binary := m.exponent - 2
  ⟨exponent, Nat.pow 2 (-binary).toNat * Nat.pow 10 exponent.toNat,
    Nat.pow 2 binary.toNat * Nat.pow 10 (-exponent).toNat⟩

/-- Whether a decimal that is `point` in the grid rounds to the magnitude. -/
def Magnitude.contains (m : Magnitude) (grid : Grid) (point : Nat) : Bool :=
  let low := (4 * m.significand - if m.powerOfTwo then 1 else 2) * grid.twos
  let high := (4 * m.significand + 2) * grid.twos
  let here := point * grid.tens
  if m.significand % 2 = 0 then low ≤ here && here ≤ high else low < here && here < high

/-- The point of the grid nearest to the magnitude among those that round to it; of two equally near
ones the even one. -/
def Magnitude.nearest? (m : Magnitude) (grid : Grid) : Option Nat :=
  let exact := 4 * m.significand * grid.twos
  let below := exact / grid.tens
  let above := below + 1
  let belowFits := 0 < below && m.contains grid below
  let aboveFits := m.contains grid above
  let fromBelow := exact - below * grid.tens
  let toAbove := above * grid.tens - exact
  if belowFits && aboveFits then
    if fromBelow < toAbove || (fromBelow = toAbove && below % 2 = 0) then some below else some above
  else if belowFits then some below
  else if aboveFits then some above
  else none

/-- Searches the grids from `10 ^ exponent` down to `10 ^ (exponent - steps)`. -/
def Magnitude.search (m : Magnitude) (exponent : Int) : Nat → Scientific
  | 0 => ⟨4 * m.significand * (m.grid exponent).twos / (m.grid exponent).tens, exponent⟩
  | steps + 1 =>
    match m.nearest? (m.grid exponent) with
    | some point => ⟨point, exponent⟩
    | none => m.search (exponent - 1) steps

/-- A power of ten just above the magnitude, from its binary length. -/
def Magnitude.coarsest (m : Magnitude) : Int :=
  ((Nat.log2 m.significand + 1 + m.exponent : Int) * 30103).fdiv 100000 + 2

/-- For a magnitude that is not zero. Seventeen digits always suffice, and the first grids of the
search are coarser than the first digit. -/
def Magnitude.shortest (m : Magnitude) : Scientific := m.search m.coarsest 24

end Fanout.Decimal
