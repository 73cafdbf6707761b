import Fanout.Json.Token

/-!
Strings in JSON text, written and read. Only quotes, backslashes and control characters are escaped
on writing; reading takes every escape, joins surrogate pairs and wants UTF-8.
-/

namespace Fanout.Json

open Text

def writeChar (c : Char) : Bytes :=
  if c = '"' then [0x5C, 0x22]
  else if c = '\\' then [0x5C, 0x5C]
  else if c = '\x08' then [0x5C, 0x62]
  else if c = '\x0c' then [0x5C, 0x66]
  else if c = '\n' then [0x5C, 0x6E]
  else if c = '\r' then [0x5C, 0x72]
  else if c = '\t' then [0x5C, 0x74]
  else if c.toNat < 0x20 then
    [0x5C, 0x75, 0x30, 0x30, (hexDigit (c.toNat / 16)).toUInt8, (hexDigit (c.toNat % 16)).toUInt8]
  else String.utf8EncodeChar c

/-- The characters of a string and its closing quote. -/
def writeTail (cs : List Char) : Bytes := cs.flatMap writeChar ++ [0x22]

def writeString (s : String) : Bytes := 0x22 :: writeTail s.toList

def simpleEscape? (b : UInt8) : Option Char :=
  if b = 0x22 then some '"'
  else if b = 0x5C then some '\\'
  else if b = 0x2F then some '/'
  else if b = 0x62 then some '\x08'
  else if b = 0x66 then some '\x0c'
  else if b = 0x6E then some '\n'
  else if b = 0x72 then some '\r'
  else if b = 0x74 then some '\t'
  else none

def isHighSurrogate (n : Nat) : Bool := 0xD800 ≤ n && n ≤ 0xDBFF

def isLowSurrogate (n : Nat) : Bool := 0xDC00 ≤ n && n ≤ 0xDFFF

/-- The character of a surrogate pair whose first half is known, from the backslash of the second
half on. -/
def readLowSurrogate (high : Nat) : Bytes → Except Fault (Char × Bytes)
  | [] => fail .stringEnds []
  | b :: r =>
    if b = 0x5C then
      match r with
      | [] => fail .stringEnds []
      | c :: r =>
        if c = 0x75 then
          match hexUnit r with
          | .error f => .error f
          | .ok (low, r) =>
            if isLowSurrogate low then
              .ok (Char.ofNat (0x10000 + (high - 0xD800) * 0x400 + (low - 0xDC00)), r)
            else fail .loneSurrogate r
        else fail .unfinishedSurrogate r
    else fail .unfinishedSurrogate r

/-- The character of an escape, from behind its backslash. -/
def readEscape : Bytes → Except Fault (Char × Bytes)
  | [] => fail .stringEnds []
  | e :: r =>
    match simpleEscape? e with
    | some c => .ok (c, r)
    | none =>
      if e = 0x75 then
        match hexUnit r with
        | .error f => .error f
        | .ok (n, r) =>
          if isLowSurrogate n then fail .loneSurrogate r
          else if isHighSurrogate n then readLowSurrogate n r
          else .ok (Char.ofNat n, r)
      else fail .invalidEscape r

theorem readLowSurrogate_length {high : Nat} {s r : Bytes} {c : Char}
    (h : readLowSurrogate high s = .ok (c, r)) : r.length < s.length := by
  unfold readLowSurrogate at h
  repeat' split at h
  all_goals simp only [fail, Except.ok.injEq, Prod.mk.injEq, reduceCtorEq] at h
  rename_i unit _
  have := hexUnit_length unit
  simp only [← h.2, List.length_cons]
  omega

theorem readEscape_length {s r : Bytes} {c : Char} (h : readEscape s = .ok (c, r)) :
    r.length < s.length := by
  unfold readEscape at h
  split at h
  · simp [fail] at h
  · rename_i e t
    rw [List.length_cons]
    split at h
    · simp only [Except.ok.injEq, Prod.mk.injEq] at h
      simp [h.2]
    · split at h
      · split at h
        · simp at h
        · rename_i unit
          have a := hexUnit_length unit
          split at h
          · simp [fail] at h
          · split at h
            · have b := readLowSurrogate_length h
              omega
            · simp only [Except.ok.injEq, Prod.mk.injEq] at h
              rw [← h.2]
              omega
      · simp [fail] at h

/-- Reads on behind the characters `done`, newest first, to the closing quote. A byte that starts no
character is passed over; once the string has closed, the first such byte is the fault, and `broken`
holds what follows it. -/
def readStringFrom (done : List Char) (broken : Option Bytes) (s : Bytes) :
    Except Fault (String × Bytes) :=
  match s with
  | [] => fail .stringEnds []
  | b :: r =>
    if b = 0x22 then
      match broken with
      | none => .ok (String.ofList done.reverse, r)
      | some rest => fail .invalidCodePoint rest
    else if b = 0x5C then
      match escape : readEscape r with
      | .error f => .error f
      | .ok (c, r') => have := readEscape_length escape; readStringFrom (c :: done) broken r'
    else if b < 0x20 then fail .controlCharacter r
    else
      match char : Utf8.next? (b :: r) with
      | some (c, r') =>
        have : r'.length < r.length + 1 := Utf8.next?_length char
        readStringFrom (c :: done) broken r'
      | none => readStringFrom done (broken <|> some r) r
termination_by s.length

/-- A string from behind its opening quote. -/
def readString (s : Bytes) : Except Fault (String × Bytes) := readStringFrom [] none s

theorem readStringFrom_length {done : List Char} {broken : Option Bytes} {s r : Bytes} {t : String}
    (h : readStringFrom done broken s = .ok (t, r)) : r.length < s.length := by
  fun_induction readStringFrom done broken s with
  | case8 done broken b s _ _ _ _ ih => have := ih h; simp only [List.length_cons]; omega
  | _ => simp_all [fail] <;> omega

theorem utf8Size_of_simpleEscape {b : UInt8} {c : Char} (h : simpleEscape? b = some c) :
    c.utf8Size = 1 := by
  unfold simpleEscape? at h
  repeat' split at h
  all_goals simp only [Option.some.injEq, reduceCtorEq] at h
  all_goals subst h; rfl

theorem readEscape_size {s r : Bytes} {c : Char} (h : readEscape s = .ok (c, r)) :
    c.utf8Size + r.length ≤ s.length := by
  have bound := (@Utf8.utf8Size_le c).2.2.2
  unfold readEscape at h
  split at h
  · simp [fail] at h
  · rw [List.length_cons]
    split at h
    · rename_i simpleEscape
      have := utf8Size_of_simpleEscape simpleEscape
      simp only [Except.ok.injEq, Prod.mk.injEq] at h
      rw [← h.1, ← h.2]
      omega
    · split at h
      · split at h
        · simp at h
        · rename_i unit
          have a := hexUnit_length unit
          split at h
          · simp [fail] at h
          · split at h
            · have b := readLowSurrogate_length h
              omega
            · simp only [Except.ok.injEq, Prod.mk.injEq] at h
              rw [← h.2]
              omega
      · simp [fail] at h

/-- A string takes no more room in UTF-8 than it does between quotes. -/
theorem readStringFrom_size {done : List Char} {broken : Option Bytes} {s r : Bytes} {t : String}
    (h : readStringFrom done broken s = .ok (t, r)) :
    (Utf8.encode t).length + r.length < (Utf8.encodeChars done).length + s.length := by
  fun_induction readStringFrom done broken s with
  | case1 => simp [fail] at h
  | case2 done s =>
    simp only [Except.ok.injEq, Prod.mk.injEq] at h
    simp [← h.1, ← h.2, Utf8.encode, Utf8.encodeChars, List.length_flatMap]
  | case3 => simp [fail] at h
  | case4 => simp at h
  | case5 done broken s _ _ _ _ _ ih =>
    rename_i escape _ _
    have := ih h
    have := readEscape_size escape
    simp only [Utf8.encodeChars, List.flatMap_cons, List.length_append, List.length_cons,
      String.length_utf8EncodeChar] at *
    omega
  | case6 => simp [fail] at h
  | case7 done broken b s _ _ _ _ _ char _ ih =>
    have := ih h
    have := Utf8.next?_size char
    simp only [Utf8.encodeChars, List.flatMap_cons, List.length_append, List.length_cons,
      String.length_utf8EncodeChar] at *
    omega
  | case8 done broken b s _ _ _ _ ih =>
    have := ih h
    simp only [List.length_cons]
    omega

theorem readString_size {s r : Bytes} {t : String} (h : readString s = .ok (t, r)) :
    (Utf8.encode t).length + r.length < s.length := by
  simpa [Utf8.encodeChars] using readStringFrom_size h

theorem readString_length {s r : Bytes} {t : String} (h : readString s = .ok (t, r)) :
    r.length < s.length := readStringFrom_length h

end Fanout.Json
