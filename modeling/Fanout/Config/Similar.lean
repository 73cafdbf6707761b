/-!
How much two words have in common, to find the one that was meant: characters that agree within a
window around the same place, less those that come in another order.
-/

namespace Fanout.Config

/-- The place of the first character equal to `c` within `window` that is not `taken` yet. -/
def partner? (c : Char) (window : Nat → Bool) (taken : List Nat) (b : List Char) : Option Nat :=
  (List.range b.length).find? fun j => window j && !taken.contains j && b[j]? == some c

/-- The places in `b` that the characters of `a` find a partner at, one after the other; nothing for
those that find none. -/
def partners (a b : List Char) : List (Option Nat) :=
  let reach := max a.length b.length / 2 - 1
  (a.zipIdx.foldl
    (fun (found, taken) (c, i) =>
      let window (j : Nat) : Bool := i ≤ j + reach && j ≤ i + reach
      match partner? c window taken b with
      | some j => (some j :: found, j :: taken)
      | none => (none :: found, taken))
    (([], []) : List (Option Nat) × List Nat)).1.reverse

/-- A fraction of two numbers. -/
structure Ratio where
  numerator : Nat
  denominator : Nat

def Ratio.less (a b : Ratio) : Bool := a.numerator * b.denominator < b.numerator * a.denominator

/-- The likeness of two words between zero and one. -/
def likeness (s t : String) : Ratio :=
  let a := s.toList
  let b := t.toList
  let places := (partners a b).filterMap id
  let common := places.length
  if a.isEmpty && b.isEmpty then ⟨1, 1⟩
  else if common = 0 then ⟨0, 1⟩
  else
    let inA := ((a.zip (partners a b)).filter (·.2.isSome)).map (·.1)
    let inB := (places.mergeSort).filterMap (b[·]?)
    let swapped := ((inA.zip inB).filter fun (c, d) => c != d).length / 2
    ⟨common * common * b.length + common * common * a.length
      + (common - swapped) * a.length * b.length, 3 * common * a.length * b.length⟩

/-- What a word must exceed to be taken for another one. -/
def similarFrom : Ratio := ⟨7, 10⟩

/-- The word among `candidates` that is most like this one, the last of several. -/
def similar? (word : String) (candidates : List String) : Option String :=
  let better (best : Option (String × Ratio)) (candidate : String) : Option (String × Ratio) :=
    let ratio := likeness word candidate
    if !similarFrom.less ratio then best
    else
      match best with
      | some (_, other) => if ratio.less other then best else some (candidate, ratio)
      | none => some (candidate, ratio)
  (candidates.foldl better none).map (·.1)

end Fanout.Config
