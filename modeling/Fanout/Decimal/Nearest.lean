import Fanout.Text.Ascii
import Fanout.Decimal.Binary

/-!
The binary number nearest to a rational or to a decimal text. Rounding is exact: one division with
its remainder decides, and of two equally near numbers the one with an even significand is taken.
-/

namespace Fanout.Decimal

open Text

def BinaryFormat.infinity (format : BinaryFormat) : Nat :=
  (Nat.pow 2 format.exponentBits - 1) * Nat.pow 2 format.fractionBits

/-- The quotient, rounded to the nearest integer, a half to the even one. -/
def divideToEven (numerator denominator : Nat) : Nat :=
  let quotient := numerator / denominator
  let twice := 2 * (numerator % denominator)
  if twice > denominator ∨ (twice = denominator ∧ quotient % 2 = 1) then quotient + 1 else quotient

/-- The exponent of the last place that the quotient has in the format. -/
def BinaryFormat.lastPlace (format : BinaryFormat) (numerator denominator : Nat) : Int :=
  let guess : Int :=
    Nat.log2 numerator - Nat.log2 denominator - (format.fractionBits + 1 : Nat)
  let tooSmall := denominator * Nat.pow 2 (guess.toNat + format.fractionBits + 1)
    ≤ numerator * Nat.pow 2 (-guess).toNat
  max format.leastExponent (if tooSmall then guess + 1 else guess)

/-- The bits of the number nearest to the quotient, without a sign. -/
def BinaryFormat.nearest (format : BinaryFormat) (numerator denominator : Nat) : Nat :=
  if numerator = 0 then 0
  else
    let place := format.lastPlace numerator denominator
    let significand :=
      divideToEven (numerator * Nat.pow 2 (-place).toNat) (denominator * Nat.pow 2 place.toNat)
    min format.infinity
      (significand + (place - format.leastExponent).toNat * Nat.pow 2 format.fractionBits)

/-- A decimal text: a number, infinity, or none of them. -/
inductive Numeric where
  | finite (negative : Bool) (coefficient : Nat) (exponent : Int)
  | infinite (negative : Bool)
  | notANumber
  deriving DecidableEq, Repr

/-- The bits of the nearest number. An exponent far out of range is not evaluated. -/
def BinaryFormat.ofNumeric (format : BinaryFormat) (n : Numeric) : Nat :=
  let signed (negative : Bool) (bits : Nat) : Nat :=
    if negative then Nat.pow 2 (format.fractionBits + format.exponentBits) + bits else bits
  match n with
  | .notANumber => format.infinity + Nat.pow 2 (format.fractionBits - 1)
  | .infinite negative => signed negative format.infinity
  | .finite negative coefficient exponent =>
    let place : Int := Nat.log2 coefficient * 3 / 10 + exponent
    if coefficient = 0 ∨ place < -(Nat.pow 2 format.exponentBits : Int) then signed negative 0
    else if (Nat.pow 2 format.exponentBits : Int) < place then signed negative format.infinity
    else signed negative
      (format.nearest (coefficient * Nat.pow 10 exponent.toNat) (Nat.pow 10 (-exponent).toNat))

/-- The sign at the front of a text, if there is one. -/
def splitSign (s : List Char) : Bool × List Char :=
  match s with
  | '-' :: r => (true, r)
  | '+' :: r => (false, r)
  | r => (false, r)

def digitsValue (ds : List Char) : Nat := ds.foldl (fun n c => n * 10 + (c.toNat - 0x30)) 0

/-- The exponent that a text consists of, zero if it is empty. -/
def exponentOf? : List Char → Option Int
  | [] => some 0
  | c :: r =>
    let (negative, ds) := splitSign r
    if (c = 'e' ∨ c = 'E') ∧ ds ≠ [] ∧ ds.all Char.isDigit then
      some (if negative then -(digitsValue ds : Int) else digitsValue ds)
    else none

/-- Reads digits with at most one point among or around them and an exponent, or a word for
infinity or for no number; a sign may come first and letters may have either case. -/
def Numeric.ofText? (text : String) : Option Numeric :=
  let (negative, s) := splitSign text.toList
  let word := String.ofList (s.map Char.toLower)
  if word = "inf" ∨ word = "infinity" then some (.infinite negative)
  else if word = "nan" then some .notANumber
  else
    let whole := s.takeWhile Char.isDigit
    let (fraction, rest) := match s.dropWhile Char.isDigit with
      | '.' :: r => (r.takeWhile Char.isDigit, r.dropWhile Char.isDigit)
      | r => ([], r)
    if whole.isEmpty && fraction.isEmpty then none
    else (exponentOf? rest).map fun exponent =>
      .finite negative (digitsValue (whole ++ fraction)) (exponent - fraction.length)

def Numeric.toFloat (n : Numeric) : Float := .ofBits (.ofNat (binary64.ofNumeric n))

def Numeric.toFloat32 (n : Numeric) : Float32 := .ofBits (.ofNat (binary32.ofNumeric n))

end Fanout.Decimal
