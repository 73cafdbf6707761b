import Fanout.Json.Token
import Fanout.Decimal.Nearest

/-!
The value of a numeral. Whole numbers within 64 bits stay integers. Any other numeral becomes
floating point: as many digits as 64 bits hold are taken as an integer, and that is scaled by a
power of ten, which rounds twice and so need not give the nearest number.
-/

namespace Fanout.Json

open Text

inductive Number where
  | integer (i : Int)
  | float (x : Float)

/-- Equal numbers of one kind; floating point compares by value, so that both zeros are equal. -/
def Number.beq : Number → Number → Bool
  | .integer i, .integer j => i == j
  | .float x, .float y => x == y
  | _, _ => false

instance : BEq Number := ⟨Number.beq⟩

/-- A number that is not finite has no text of its own. -/
def Number.write : Number → Bytes
  | .integer i => Decimal.integer i
  | .float x => (floatLayout.write? (.ofFloat x)).getD [0x6E, 0x75, 0x6C, 0x6C]

/-- Puts digits behind the significand until the next one would not fit into 64 bits; the others are
left. -/
def absorb (significand : Nat) : Bytes → Nat × Bytes
  | [] => (significand, [])
  | d :: ds =>
    let next := significand * 10 + digitValue d
    if next < Nat.pow 2 64 then absorb next ds else (significand, d :: ds)

/-- The greatest exponent whose power of ten is a floating point number. -/
def greatestPower : Nat := 308

def powerOfTen (n : Nat) : Float := .ofBits (.ofNat (Decimal.binary64.nearest (Nat.pow 10 n) 1))

/-- Divides by `10 ^ n`. -/
def shrink (x : Float) (n : Nat) : Float :=
  if n ≤ greatestPower then x / powerOfTen n
  else if x == 0 then x
  else shrink (x / powerOfTen greatestPower) (n - greatestPower)
termination_by n
decreasing_by
  simp only [greatestPower] at *
  omega

/-- The number `significand * 10 ^ exponent`, unless it is too great. -/
def scale? (significand : Nat) (exponent : Int) : Option Float :=
  let x := (UInt64.ofNat significand).toFloat
  match exponent with
  | .negSucc n => some (shrink x (n + 1))
  | .ofNat n =>
    if n ≤ greatestPower then
      let scaled := x * powerOfTen n
      if scaled.isInf then none else some scaled
    else if x == 0 then some x
    else none

def withSign (negative : Bool) (x : Float) : Float := if negative then -x else x

/-- What follows the digit by which a number leaves the 31 bits that an exponent has. -/
def exponentOverflow? (exponent : Nat) : Bytes → Option Bytes
  | [] => none
  | d :: ds =>
    let next := exponent * 10 + digitValue d
    if next < Nat.pow 2 31 then exponentOverflow? next ds
    else some ds

/-- The digits that count, as an integer, and the power of ten by which it is too small. -/
def Numeral.significand (n : Numeral) : Nat × Int :=
  let (whole, left) := absorb 0 n.whole
  let digits := n.fraction.getD []
  let (all, skipped) := absorb whole digits
  (all, left.length - (digits.length - skipped.length))

/-- Whether the numeral is an integer whose digits all count. -/
def Numeral.isWhole (n : Numeral) : Bool :=
  n.fraction.isNone && n.exponent.isNone && (absorb 0 n.whole).2.isEmpty

/-- The number of a numeral, of which a text goes on with `rest`. -/
def Numeral.value (n : Numeral) (rest : Bytes) : Except Fault Number :=
  let (significand, exponent) := n.significand
  let finish (exponent : Int) : Except Fault Number :=
    match scale? significand exponent with
    | some x => .ok (.float (withSign n.negative x))
    | none => fail .numberOutOfRange rest
  if n.isWhole then
    if !n.negative then .ok (.integer significand)
    else if 0 < significand ∧ significand ≤ Nat.pow 2 63 then .ok (.integer (-significand))
    else .ok (.float (-(UInt64.ofNat significand).toFloat))
  else
    match n.exponent with
    | none => finish exponent
    | some (shrinks, ds) =>
      match exponentOverflow? 0 ds with
      | some left =>
        if significand ≠ 0 ∧ !shrinks then fail .numberOutOfRange (left ++ rest)
        else .ok (.float (withSign n.negative 0))
      | none => finish (if shrinks then exponent - decimal ds else exponent + decimal ds)

def readNumber (s : Bytes) : Except Fault (Number × Bytes) := do
  let (n, r) ← numeral .valueEnds s
  let number ← n.value r
  return (number, r)

theorem readNumber_length {s r : Bytes} {n : Number} (h : readNumber s = .ok (n, r)) :
    r.length < s.length := by
  unfold readNumber at h
  cases read : numeral .valueEnds s with
  | error f => simp [read, bind, Except.bind] at h
  | ok p =>
    cases value : p.1.value p.2 with
    | error f => simp [read, value, bind, Except.bind] at h
    | ok v =>
      simp only [read, value, bind, Except.bind, pure, Except.pure, Except.ok.injEq,
        Prod.mk.injEq] at h
      have := numeral_length (n := p.1) (r := p.2) read
      rwa [← h.2]

end Fanout.Json
