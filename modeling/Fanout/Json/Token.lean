import Fanout.Json.Fault

/-!
The parts of a JSON text that are not brackets: blanks, the three words, strings passed over without
being read, and numerals. Each takes the text from its first byte on and gives back what follows it.
-/

namespace Fanout.Json

open Text

def isSpace (b : UInt8) : Bool := b == 0x20 || b == 0x09 || b == 0x0A || b == 0x0D

def skipSpace (s : Bytes) : Bytes := s.dropWhile isSpace

theorem skipSpace_length (s : Bytes) : (skipSpace s).length ≤ s.length :=
  (List.dropWhile_sublist _).length_le

theorem skipSpace_cons {s r : Bytes} {b : UInt8} (h : skipSpace s = b :: r) :
    r.length < s.length := by
  have := skipSpace_length s
  rw [h, List.length_cons] at this
  omega

/-- Passes over the rest of `null`, `true` or `false`. -/
def skipWord : Bytes → Bytes → Except Fault Bytes
  | [], s => .ok s
  | _ :: _, [] => fail .valueEnds []
  | w :: word, b :: s => if b = w then skipWord word s else fail .expectedLiteral s

theorem skipWord_length {word s r : Bytes} (h : skipWord word s = .ok r) :
    r.length ≤ s.length := by
  induction word generalizing s with
  | nil => simp only [skipWord, Except.ok.injEq] at h; simp [h]
  | cons w word ih =>
    cases s with
    | nil => simp [skipWord, fail] at h
    | cons b s =>
      simp only [skipWord] at h
      split at h
      · have := ih h; simp only [List.length_cons]; omega
      · simp [fail] at h

/-- The sixteen bits behind `\u`. -/
def hexUnit : Bytes → Read Nat
  | a :: b :: c :: d :: r =>
    match hexValue? a, hexValue? b, hexValue? c, hexValue? d with
    | some a, some b, some c, some d => .ok (a * 4096 + b * 256 + c * 16 + d, r)
    | _, _, _, _ => fail .invalidEscape r
  | _ => fail .stringEnds []

theorem hexUnit_length {s r : Bytes} {n : Nat} (h : hexUnit s = .ok (n, r)) :
    r.length + 4 ≤ s.length := by
  unfold hexUnit at h
  split at h
  · split at h
    · simp only [Except.ok.injEq, Prod.mk.injEq] at h
      simp only [← h.2, List.length_cons]
      omega
    · simp [fail] at h
  · simp [fail] at h

def isSimpleEscape (b : UInt8) : Bool :=
  b == 0x22 || b == 0x5C || b == 0x2F || b == 0x62 || b == 0x66 || b == 0x6E || b == 0x72
    || b == 0x74

/-- Passes over the rest of a string and its closing quote. Any byte may stand in it but a control
character; of an escape only the form counts, so that halves of surrogate pairs pass. -/
def skipString (s : Bytes) : Except Fault Bytes :=
  match s with
  | [] => fail .stringEnds []
  | b :: r =>
    if b = 0x22 then .ok r
    else if b = 0x5C then
      match r with
      | [] => fail .stringEnds []
      | e :: r =>
        if isSimpleEscape e then skipString r
        else if e = 0x75 then
          match unit : hexUnit r with
          | .ok (_, r') =>
            have := hexUnit_length unit
            skipString r'
          | .error f => .error f
        else fail .invalidEscape r
    else if b < 0x20 then fail .controlCharacter (b :: r)
    else skipString r
termination_by s.length

theorem skipString_length {s r : Bytes} (h : skipString s = .ok r) : r.length < s.length := by
  fun_induction skipString s <;> simp_all [fail] <;> omega

/-- A decimal numeral in JSON form, by its digits. -/
structure Numeral where
  negative : Bool
  whole : Bytes
  fraction : Option Bytes
  /-- Whether the exponent is negative, and its digits. -/
  exponent : Option (Bool × Bytes)
  deriving DecidableEq, Repr

def splitDigits (s : Bytes) : Bytes × Bytes := (s.takeWhile isDigit, s.dropWhile isDigit)

/-- One zero, or digits that start with another digit. -/
def wholePart (atEnd : Cause) : Bytes → Read Bytes
  | [] => fail atEnd []
  | b :: r =>
    if b = 0x30 then
      match r with
      | c :: r' => if isDigit c then fail .invalidNumber r' else .ok ([b], r)
      | [] => .ok ([b], [])
    else if isDigit b then .ok (b :: (splitDigits r).1, (splitDigits r).2)
    else fail .invalidNumber r

/-- A point and the digits behind it, of which there is one at least. -/
def fractionPart (atEnd : Cause) : Bytes → Read (Option Bytes)
  | 0x2E :: r =>
    match splitDigits r with
    | ([], []) => fail atEnd []
    | ([], _ :: r') => fail .invalidNumber r'
    | (ds, r') => .ok (some ds, r')
  | s => .ok (none, s)

def exponentDigits (atEnd : Cause) (negative : Bool) : Bytes → Read (Option (Bool × Bytes))
  | [] => fail atEnd []
  | b :: r =>
    if isDigit b then .ok (some (negative, b :: (splitDigits r).1), (splitDigits r).2)
    else fail .invalidNumber r

def exponentPart (atEnd : Cause) : Bytes → Read (Option (Bool × Bytes))
  | [] => .ok (none, [])
  | b :: r =>
    if b = 0x65 ∨ b = 0x45 then
      match r with
      | 0x2B :: r => exponentDigits atEnd false r
      | 0x2D :: r => exponentDigits atEnd true r
      | r => exponentDigits atEnd false r
    else .ok (none, b :: r)

def splitSign : Bytes → Bool × Bytes
  | 0x2D :: r => (true, r)
  | s => (false, s)

/-- A numeral from its sign on. Where the text ends inside it, `atEnd` is the cause. -/
def numeral (atEnd : Cause) (s : Bytes) : Except Fault (Numeral × Bytes) := do
  let (whole, r) ← wholePart atEnd (splitSign s).2
  let (fraction, r) ← fractionPart atEnd r
  let (exponent, r) ← exponentPart atEnd r
  return (⟨(splitSign s).1, whole, fraction, exponent⟩, r)

theorem splitSign_length (s : Bytes) : (splitSign s).2.length ≤ s.length := by
  unfold splitSign
  split <;> simp

theorem splitDigits_length (s : Bytes) : (splitDigits s).2.length ≤ s.length :=
  (List.dropWhile_sublist _).length_le

theorem wholePart_length {atEnd : Cause} {s r ds : Bytes} (h : wholePart atEnd s = .ok (ds, r)) :
    r.length < s.length := by
  unfold wholePart at h
  repeat' split at h
  all_goals simp only [fail, Except.ok.injEq, Prod.mk.injEq, reduceCtorEq] at h
  all_goals obtain ⟨_, rfl⟩ := h
  all_goals simp only [List.length_cons]
  · omega
  · simp
  · exact Nat.lt_succ_of_le (splitDigits_length _)

theorem fractionPart_length {atEnd : Cause} {s r : Bytes} {ds : Option Bytes}
    (h : fractionPart atEnd s = .ok (ds, r)) : r.length ≤ s.length := by
  unfold fractionPart at h
  split at h
  · rename_i t
    have := splitDigits_length t
    split at h <;> simp_all [fail]
    omega
  · simp_all

theorem exponentDigits_length {atEnd : Cause} {negative : Bool} {s r : Bytes}
    {e : Option (Bool × Bytes)} (h : exponentDigits atEnd negative s = .ok (e, r)) :
    r.length ≤ s.length := by
  unfold exponentDigits at h
  split at h
  · simp [fail] at h
  · rename_i b t
    have := splitDigits_length t
    split at h <;> simp_all [fail]
    omega

theorem exponentPart_length {atEnd : Cause} {s r : Bytes} {e : Option (Bool × Bytes)}
    (h : exponentPart atEnd s = .ok (e, r)) : r.length ≤ s.length := by
  unfold exponentPart at h
  repeat' split at h
  · simp_all
  · have := exponentDigits_length h; simp only [List.length_cons]; omega
  · have := exponentDigits_length h; simp only [List.length_cons]; omega
  · have := exponentDigits_length h; simp only [List.length_cons]; omega
  · simp_all

theorem numeral_length {atEnd : Cause} {s r : Bytes} {n : Numeral}
    (h : numeral atEnd s = .ok (n, r)) : r.length < s.length := by
  unfold numeral at h
  cases whole : wholePart atEnd (splitSign s).2 with
  | error f => simp [whole, bind, Except.bind] at h
  | ok w =>
    cases fraction : fractionPart atEnd w.2 with
    | error f => simp [whole, fraction, bind, Except.bind] at h
    | ok f =>
      cases exponent : exponentPart atEnd f.2 with
      | error f => simp [whole, fraction, exponent, bind, Except.bind] at h
      | ok e =>
        simp only [whole, fraction, exponent, bind, Except.bind, pure, Except.pure,
          Except.ok.injEq, Prod.mk.injEq] at h
        have a := splitSign_length s
        have b : w.2.length < _ := wholePart_length whole
        have c : f.2.length ≤ _ := fractionPart_length fraction
        have d : e.2.length ≤ _ := exponentPart_length exponent
        rw [h.2] at d
        omega

end Fanout.Json
