/-!
Whole numbers in settings: decimal digits, a plus sign before them if one likes, and for signed ones
a minus sign. Reading stops at the first digit that leads out of range.
-/

namespace Fanout.Config

inductive NumberFault where
  | empty
  | invalidDigit
  | tooLarge
  | tooSmall
  deriving DecidableEq, Repr

def NumberFault.text : NumberFault → String
  | .empty => "cannot parse integer from empty string"
  | .invalidDigit => "invalid digit found in string"
  | .tooLarge => "number too large to fit in target type"
  | .tooSmall => "number too small to fit in target type"

/-- Reads on behind digits with the value `done`, up to the number `greatest`. -/
def readDigits (greatest : Nat) (beyond : NumberFault) (done : Nat) :
    List Char → Except NumberFault Nat
  | [] => .ok done
  | c :: cs =>
    if !c.isDigit then .error .invalidDigit
    else
      let next := done * 10 + (c.toNat - 0x30)
      if greatest < next then .error beyond else readDigits greatest beyond next cs

def readUnsigned (greatest : Nat) (text : String) : Except NumberFault Nat :=
  match text.toList with
  | [] => .error .empty
  | ['+'] => .error .invalidDigit
  | '+' :: cs => readDigits greatest .tooLarge 0 cs
  | cs => readDigits greatest .tooLarge 0 cs

/-- A number of 64 bits with a sign. -/
def readSigned (text : String) : Except NumberFault Int :=
  match text.toList with
  | [] => .error .empty
  | ['+'] | ['-'] => .error .invalidDigit
  | '-' :: cs => (readDigits (Nat.pow 2 63) .tooSmall 0 cs).map fun n => -(n : Int)
  | '+' :: cs => (readDigits (Nat.pow 2 63 - 1) .tooLarge 0 cs).map fun n => (n : Int)
  | cs => (readDigits (Nat.pow 2 63 - 1) .tooLarge 0 cs).map fun n => (n : Int)

end Fanout.Config
