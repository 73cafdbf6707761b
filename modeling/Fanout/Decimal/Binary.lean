/-!
Binary floating point by its bits: the sign, and the finite magnitude as an integer times a power of
two.
-/

namespace Fanout.Decimal

/-- A binary interchange format with its widths in bits; the leading significand bit is implied. -/
structure BinaryFormat where
  fractionBits : Nat
  exponentBits : Nat

def binary64 : BinaryFormat := ⟨52, 11⟩

def binary32 : BinaryFormat := ⟨23, 8⟩

/-- The binary exponent of the last place of the smallest numbers. -/
def BinaryFormat.leastExponent (format : BinaryFormat) : Int :=
  2 - (Nat.pow 2 (format.exponentBits - 1) : Int) - format.fractionBits

/-- The magnitude `significand * 2 ^ exponent`. At a power of two the next smaller number is only
half as far away as the next larger one. -/
structure Magnitude where
  significand : Nat
  exponent : Int
  powerOfTwo : Bool
  deriving DecidableEq, Repr

inductive Binary where
  | finite (negative : Bool) (magnitude : Magnitude)
  | infinite (negative : Bool)
  | notANumber
  deriving DecidableEq, Repr

def Binary.ofBits (format : BinaryFormat) (bits : Nat) : Binary :=
  let fraction := bits % Nat.pow 2 format.fractionBits
  let biased := bits / Nat.pow 2 format.fractionBits % Nat.pow 2 format.exponentBits
  let negative := bits / Nat.pow 2 (format.fractionBits + format.exponentBits) % 2 = 1
  if biased = Nat.pow 2 format.exponentBits - 1 then
    if fraction = 0 then .infinite negative else .notANumber
  else if biased = 0 then .finite negative ⟨fraction, format.leastExponent, false⟩
  else .finite negative
    ⟨Nat.pow 2 format.fractionBits + fraction, format.leastExponent + (biased - 1),
      fraction = 0 ∧ 1 < biased⟩

def Binary.ofFloat (x : Float) : Binary := .ofBits binary64 x.toBits.toNat

def Binary.ofFloat32 (x : Float32) : Binary := .ofBits binary32 x.toBits.toNat

end Fanout.Decimal
