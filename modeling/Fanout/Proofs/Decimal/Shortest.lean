import Fanout.Decimal.Shortest
import Mathlib.Tactic.Positivity
import Mathlib.Tactic.Ring

/-! The search for the shortest decimal never ends at zero: where no grid holds a point, the finest
one is fine enough for a digit. -/

namespace Fanout.Decimal

/-- Within the bounds of double precision. -/
structure Magnitude.Representable (m : Magnitude) : Prop where
  significand_lt : m.significand < 2 ^ 53
  least : -1074 ≤ m.exponent
  greatest : m.exponent ≤ 972

theorem Magnitude.nearest?_pos {m : Magnitude} {grid : Grid} {point : Nat}
    (h : m.nearest? grid = some point) : 0 < point := by
  unfold Magnitude.nearest? at h
  simp only at h
  split at h
  · rename_i fits
    simp only [Bool.and_eq_true, decide_eq_true_eq] at fits
    split at h <;> cases h
    · exact fits.1.1
    · exact Nat.succ_pos _
  split at h
  · rename_i fits
    simp only [Bool.and_eq_true, decide_eq_true_eq] at fits
    cases h
    exact fits.1
  split at h
  · cases h
    exact Nat.succ_pos _
  · contradiction

theorem Magnitude.search_pos {m : Magnitude} {exponent : Int} {steps : Nat}
    (fine : (m.grid (exponent - steps)).tens
      ≤ 4 * m.significand * (m.grid (exponent - steps)).twos)
    (tens : 0 < (m.grid (exponent - steps)).tens) : 0 < (m.search exponent steps).coefficient := by
  induction steps generalizing exponent with
  | zero =>
    simp only [Nat.cast_zero, sub_zero] at fine tens
    exact Nat.div_pos fine tens
  | succ steps ih =>
    simp only [Magnitude.search]
    split
    · rename_i point found
      exact Magnitude.nearest?_pos found
    · have same : exponent - (steps + 1 : Nat) = exponent - 1 - steps := by omega
      rw [same] at fine tens
      exact ih fine tens

theorem ten_pow_le (n : Nat) : 10 ^ n ≤ 2 ^ (10 * (n / 3 + 1)) := by
  calc
    10 ^ n ≤ 10 ^ (3 * (n / 3 + 1)) := Nat.pow_le_pow_right (by decide) (by omega)
    _ = 1000 ^ (n / 3 + 1) := by rw [pow_mul]; rfl
    _ ≤ 1024 ^ (n / 3 + 1) := Nat.pow_le_pow_left (by decide) _
    _ = 2 ^ (10 * (n / 3 + 1)) := by rw [pow_mul]; rfl

theorem le_ten_pow (n : Nat) : 2 ^ (13 * (n / 4)) ≤ 10 ^ n := by
  calc
    2 ^ (13 * (n / 4)) = 8192 ^ (n / 4) := by rw [pow_mul]; rfl
    _ ≤ 10000 ^ (n / 4) := Nat.pow_le_pow_left (by decide) _
    _ = 10 ^ (4 * (n / 4)) := by rw [pow_mul]; rfl
    _ ≤ 10 ^ n := Nat.pow_le_pow_right (by decide) (by omega)

/-- The finest grid of the search has its unit below the magnitude. -/
theorem Magnitude.finest {m : Magnitude} (representable : m.Representable)
    (nonzero : m.significand ≠ 0) :
    (m.grid (m.coarsest - (24 : Nat))).tens
      ≤ 4 * m.significand * (m.grid (m.coarsest - (24 : Nat))).twos := by
  have low := Nat.log2_self_le nonzero
  have length : Nat.log2 m.significand < 53 :=
    (Nat.log2_lt nonzero).mpr representable.significand_lt
  have least := representable.least
  have greatest := representable.greatest
  simp only [Magnitude.grid, Magnitude.coarsest, Nat.pow_eq,
    Int.fdiv_eq_ediv_of_nonneg _ (show (0 : Int) ≤ 100000 by decide)]
  generalize Nat.log2 m.significand = bits at *
  generalize unit : ((bits + 1 + m.exponent : Int) * 30103) / 100000 + 2 - (24 : Nat) = e
  have scaled : 4 * 2 ^ bits * 2 ^ (m.exponent - 2).toNat * 10 ^ (-e).toNat
      ≤ 4 * m.significand * (2 ^ (m.exponent - 2).toNat * 10 ^ (-e).toNat) := by
    rw [Nat.mul_assoc (4 * 2 ^ bits)]
    exact Nat.mul_le_mul_right _ (Nat.mul_le_mul_left 4 low)
  refine Nat.le_trans ?_ scaled
  have four : (4 : Nat) = 2 ^ 2 := rfl
  rcases Int.le_total 0 e with coarse | fine
  · calc
      2 ^ (-(m.exponent - 2)).toNat * 10 ^ e.toNat
          ≤ 2 ^ (-(m.exponent - 2)).toNat * 2 ^ (10 * (e.toNat / 3 + 1)) :=
        Nat.mul_le_mul_left _ (ten_pow_le _)
      _ = 2 ^ ((-(m.exponent - 2)).toNat + 10 * (e.toNat / 3 + 1)) := (Nat.pow_add ..).symm
      _ ≤ 2 ^ (2 + bits + (m.exponent - 2).toNat) :=
        Nat.pow_le_pow_right (by decide) (by omega)
      _ = 4 * 2 ^ bits * 2 ^ (m.exponent - 2).toNat := by rw [four, ← Nat.pow_add, ← Nat.pow_add]
      _ ≤ 4 * 2 ^ bits * 2 ^ (m.exponent - 2).toNat * 10 ^ (-e).toNat :=
        Nat.le_mul_of_pos_right _ (by positivity)
  · have whole : e.toNat = 0 := by omega
    calc
      2 ^ (-(m.exponent - 2)).toNat * 10 ^ e.toNat = 2 ^ (-(m.exponent - 2)).toNat := by
        rw [whole, Nat.pow_zero, Nat.mul_one]
      _ ≤ 2 ^ (2 + bits + (m.exponent - 2).toNat + 13 * ((-e).toNat / 4)) :=
        Nat.pow_le_pow_right (by decide) (by omega)
      _ = 4 * 2 ^ bits * 2 ^ (m.exponent - 2).toNat * 2 ^ (13 * ((-e).toNat / 4)) := by
        rw [four, ← Nat.pow_add, ← Nat.pow_add, ← Nat.pow_add]
      _ ≤ 4 * 2 ^ bits * 2 ^ (m.exponent - 2).toNat * 10 ^ (-e).toNat :=
        Nat.mul_le_mul_left _ (le_ten_pow _)

theorem Magnitude.shortest_pos {m : Magnitude} (representable : m.Representable)
    (nonzero : m.significand ≠ 0) : 0 < m.shortest.coefficient := by
  refine Magnitude.search_pos (Magnitude.finest representable nonzero) ?_
  simp only [Magnitude.grid, Nat.pow_eq]
  positivity

/-! ## The formats -/

/-- Formats that hold nothing finer or greater than double precision. -/
structure BinaryFormat.Narrow (format : BinaryFormat) : Prop where
  fraction : format.fractionBits ≤ 52
  least : -1074 ≤ format.leastExponent
  greatest : format.leastExponent + (2 ^ format.exponentBits : Int) ≤ 974

theorem narrow_binary64 : binary64.Narrow := by
  constructor <;> decide

theorem narrow_binary32 : binary32.Narrow := by
  constructor <;> decide

def Binary.Representable (x : Binary) : Prop :=
  ∀ negative m, x = .finite negative m → m.Representable

theorem BinaryFormat.Narrow.ofBits {format : BinaryFormat} (narrow : format.Narrow) (bits : Nat) :
    (Binary.ofBits format bits).Representable := by
  intro negative m same
  have fraction : 2 ^ format.fractionBits ≤ 2 ^ 52 :=
    Nat.pow_le_pow_right (by decide) narrow.fraction
  have least := narrow.least
  have greatest := narrow.greatest
  have low := Nat.mod_lt bits (Nat.two_pow_pos format.fractionBits)
  have biased := Nat.mod_lt (bits / 2 ^ format.fractionBits)
    (Nat.two_pow_pos format.exponentBits)
  simp only [Binary.ofBits, Nat.pow_eq] at same
  generalize bits % 2 ^ format.fractionBits = f at *
  generalize bits / 2 ^ format.fractionBits % 2 ^ format.exponentBits = e at *
  have power : ((2 ^ format.exponentBits : Nat) : Int) = 2 ^ format.exponentBits := by simp
  split at same
  · split at same <;> contradiction
  split at same
  · cases same
    refine ⟨?_, ?_, ?_⟩ <;> simp only <;> omega
  · cases same
    refine ⟨?_, ?_, ?_⟩ <;> simp only <;> omega

theorem representable_ofFloat (x : Float) : (Binary.ofFloat x).Representable :=
  narrow_binary64.ofBits _

theorem representable_ofFloat32 (x : Float32) : (Binary.ofFloat32 x).Representable :=
  narrow_binary32.ofBits _

end Fanout.Decimal
