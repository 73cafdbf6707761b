import Fanout.Text.Ascii
import Fanout.Decimal.Shortest

/-!
Numbers as decimal text in ASCII: integers by their digits, and binary floating point with a point
or with an exponent, as a `Layout` decides.
-/

namespace Fanout.Decimal

open Text

def digit (n : Nat) : UInt8 := UInt8.ofNat (0x30 + n % 10)

/-- The decimal digits of `n` without leading zeros. -/
def digits (n : Nat) : Bytes :=
  if n < 10 then [digit n] else digits (n / 10) ++ [digit n]
termination_by n

def integer : Int → Bytes
  | .ofNat n => digits n
  | .negSucc n => 0x2D :: digits (n + 1)

/-- The decimal exponents of a first digit that are written with a point alone. -/
structure Layout where
  least : Int
  greatest : Int

/-- Digits with a point behind the place of the first one times `10 ^ place`. -/
def positional (ds : Bytes) (place : Int) : Bytes :=
  match place with
  | .ofNat n =>
    if ds.length ≤ n + 1 then ds ++ List.replicate (n + 1 - ds.length) 0x30 ++ [0x2E, 0x30]
    else ds.take (n + 1) ++ 0x2E :: ds.drop (n + 1)
  | .negSucc n => [0x30, 0x2E] ++ List.replicate n 0x30 ++ ds

/-- One digit, the others behind a point, and the exponent with its sign. -/
def scientific (ds : Bytes) (place : Int) : Bytes :=
  let mantissa := match ds with
    | d :: e :: r => d :: 0x2E :: e :: r
    | short => short
  let sign := if place < 0 then [0x2D] else [0x2B]
  mantissa ++ 0x65 :: sign ++ digits place.natAbs

def Layout.magnitude (layout : Layout) (m : Magnitude) : Bytes :=
  if m.significand = 0 then [0x30, 0x2E, 0x30]
  else
    let shortest := m.shortest
    let ds := digits shortest.coefficient
    let place := shortest.exponent + (ds.length - 1 : Nat)
    if layout.least ≤ place ∧ place ≤ layout.greatest then positional ds place
    else scientific ds place

/-- The text of a finite number; there is none for the others. -/
def Layout.write? (layout : Layout) : Binary → Option Bytes
  | .finite negative m =>
    some (if negative then 0x2D :: layout.magnitude m else layout.magnitude m)
  | _ => none

end Fanout.Decimal
