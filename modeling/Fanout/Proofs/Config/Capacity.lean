import Fanout.Config.Arguments

/-! Which lengths of a client's queue a configuration can have: what is denoted by the digits of a
text from the command line or the environment, as long as it is a number of 64 bits but zero. -/

namespace Fanout.Config

/-- The number that decimal digits denote behind others for the number `done`. -/
def digitsValue (done : Nat) (digits : List Char) : Nat :=
  digits.foldl (fun n c => n * 10 + (c.toNat - 0x30)) done

/-- A text without the plus sign that it may begin with. -/
def unsigned (text : String) : List Char :=
  match text.toList with
  | '+' :: digits => digits
  | digits => digits

/-- The text is a numeral for the number: digits, perhaps with a plus sign before them. -/
structure Denotes (text : String) (n : Nat) : Prop where
  some : unsigned text ≠ []
  digits : (unsigned text).all (·.isDigit) = true
  value : digitsValue 0 (unsigned text) = n

section Numbers

variable {greatest done n : Nat} {beyond : NumberFault} {text : String}

theorem le_digitsValue (done : Nat) (digits : List Char) : done ≤ digitsValue done digits := by
  induction digits generalizing done with
  | nil => exact Nat.le_refl done
  | cons c digits grows =>
    have further := grows (done * 10 + (c.toNat - 0x30))
    simp only [digitsValue, List.foldl_cons] at further ⊢
    omega

/-- Reading stops early only where the number is out of range already. -/
theorem readDigits_iff (small : done ≤ greatest) {digits : List Char} :
    readDigits greatest beyond done digits = .ok n ↔
      digits.all (·.isDigit) = true ∧ digitsValue done digits = n ∧ n ≤ greatest := by
  induction digits generalizing done with
  | nil =>
    simp only [readDigits, Except.ok.injEq, List.all_nil, digitsValue, List.foldl_nil, true_and]
    constructor
    · rintro rfl
      exact ⟨rfl, small⟩
    · exact And.left
  | cons c digits reads =>
    cases digit : c.isDigit with
    | false => simp [readDigits, digit]
    | true =>
      simp only [readDigits, digit, Bool.not_true, Bool.false_eq_true, if_false, List.all_cons,
        Bool.true_and]
      split
      · rename_i exceeds
        have grows := le_digitsValue (done * 10 + (c.toNat - 0x30)) digits
        constructor
        · intro refused
          contradiction
        · rintro ⟨_, rfl, fits⟩
          simp only [digitsValue, List.foldl_cons] at grows fits
          omega
      · rename_i fits
        exact reads (Nat.le_of_not_lt fits)

theorem readUnsigned_eq (greatest : Nat) (some : unsigned text ≠ []) :
    readUnsigned greatest text = readDigits greatest .tooLarge 0 (unsigned text) := by
  unfold readUnsigned unsigned at *
  split
  · rename_i none
    simp [none] at some
  · rename_i plus
    simp [plus] at some
  · rename_i cs _ plus
    simp only [plus]
  · rename_i cs none alone plus
    split
    · rename_i same
      exact absurd same (plus _)
    · rfl

theorem readUnsigned_iff :
    readUnsigned greatest text = .ok n ↔ Denotes text n ∧ n ≤ greatest := by
  by_cases none : unsigned text = []
  · have refused : ∀ n, readUnsigned greatest text ≠ .ok n := by
      intro n
      unfold readUnsigned unsigned at *
      split at none
      · rename_i plus
        rw [plus, none]
        nofun
      · rw [none]
        nofun
    constructor
    · exact fun read => absurd read (refused n)
    · exact fun denotes => absurd none denotes.1.some
  · rw [readUnsigned_eq greatest none, readDigits_iff (Nat.zero_le greatest)]
    constructor
    · rintro ⟨digits, value, fits⟩
      exact ⟨⟨none, digits, value⟩, fits⟩
    · rintro ⟨⟨_, digits, value⟩, fits⟩
      exact ⟨digits, value, fits⟩

/-- The capacities that are accepted. -/
theorem readCapacity_iff :
    Given.readCapacity text = .ok n ↔ Denotes text n ∧ 1 ≤ n ∧ n < UInt64.size := by
  have greatest (m : Nat) : m ≤ Nat.pow 2 64 - 1 ↔ m < UInt64.size :=
    Nat.le_sub_one_iff_lt (by decide)
  unfold Given.readCapacity
  split
  · rename_i fault refused
    constructor
    · intro read
      contradiction
    · rintro ⟨denotes, _, fits⟩
      have read := readUnsigned_iff.mpr ⟨denotes, (greatest n).mpr fits⟩
      cases refused.symm.trans read
  · rename_i zero
    constructor
    · intro read
      contradiction
    · rintro ⟨denotes, one, fits⟩
      have read := readUnsigned_iff.mpr ⟨denotes, (greatest n).mpr fits⟩
      cases zero.symm.trans read
      contradiction
  · rename_i m more read
    obtain ⟨denotes, fits⟩ := readUnsigned_iff.mp read
    constructor
    · intro accepted
      cases accepted
      exact ⟨denotes, Nat.pos_of_ne_zero more, (greatest n).mp fits⟩
    · rintro ⟨denotes', _, _⟩
      rw [← denotes.value, denotes'.value]

end Numbers

/-! ## Settings -/

/-- A capacity that is set is a number of 64 bits, and not zero. -/
def Given.Bounded (given : Given) : Prop :=
  ∀ n, given.clientBufferCapacity = some n → 1 ≤ n ∧ n < UInt64.size

variable {given after : Given} {scan next : Scan} {setting : Setting} {text : String}

theorem Given.bounded_nothing : Given.nothing.Bounded := by
  intro n set
  contradiction

theorem Given.Bounded.config (bounded : given.Bounded) :
    1 ≤ given.config.clientBufferCapacity ∧ given.config.clientBufferCapacity < UInt64.size := by
  cases set : given.clientBufferCapacity with
  | none =>
    simp only [Given.config, set]
    decide
  | some n =>
    simp only [Given.config, set]
    exact bounded n set

theorem Given.Bounded.put (bounded : given.Bounded) (taken : given.put setting text = .ok after) :
    after.Bounded := by
  cases setting with
  | clientBufferCapacity =>
    simp only [Given.put, bind, Except.bind] at taken
    split at taken
    · contradiction
    · rename_i n read
      cases taken
      intro m set
      cases set
      exact (readCapacity_iff.mp read).2
  | allowedOrigins | redisUrl | busChannel | interface =>
    cases taken
    exact bounded
  | port | verbosity | environment =>
    simp only [Given.put, bind, Except.bind] at taken
    split at taken
    · contradiction
    · cases taken
      exact bounded

/-! ## Arguments and the environment -/

/-- What every step of a fold keeps is kept, unless the fold is stopped. -/
theorem foldlM_keeps {ε α β : Type} {step : β → α → Except ε β} (P : β → Prop)
    (keeps : ∀ b a c, P b → step b a = .ok c → P c) {items : List α} {first last : β}
    (holds : P first) (taken : items.foldlM step first = .ok last) : P last := by
  induction items generalizing first with
  | nil =>
    cases taken
    exact holds
  | cons item items rest =>
    rw [List.foldlM_cons] at taken
    cases stepped : step first item with
    | error stop =>
      rw [stepped] at taken
      contradiction
    | ok between =>
      rw [stepped] at taken
      exact rest (keeps first item between holds stepped) taken

namespace Scan

variable {argument name : String} {value : Option String}

theorem bounded_put (bounded : scan.given.Bounded) (taken : scan.put setting text = .ok next) :
    next.given.Bounded := by
  unfold put at taken
  split at taken
  · contradiction
  · split at taken
    · contradiction
    · rename_i given set
      cases taken
      exact bounded.put set

theorem bounded_resolve (bounded : scan.given.Bounded) (taken : scan.resolve = .ok next) :
    next.given.Bounded := by
  unfold resolve at taken
  split at taken
  · cases taken
    exact bounded
  · contradiction
  · rename_i setting value _
    have same : Given.Bounded { scan with pending := none }.given := bounded
    exact bounded_put same taken

theorem bounded_option (bounded : scan.given.Bounded)
    (taken : scan.option setting value = .ok next) : next.given.Bounded := by
  unfold option at taken
  cases resolved : scan.resolve with
  | error stop =>
    rw [resolved] at taken
    contradiction
  | ok first =>
    rw [resolved] at taken
    have kept := bounded_resolve bounded resolved
    cases value with
    | none =>
      cases taken
      exact kept
    | some value => exact bounded_put kept taken

/-- An option that asks for something else never leads to a configuration. -/
theorem flag_ne_ok (scan : Scan) (flag : Flag) (next : Scan) : scan.flag flag ≠ .ok next := by
  unfold Scan.flag
  cases scan.resolve <;> nofun

theorem bounded_long (bounded : scan.given.Bounded) (taken : scan.long name value = .ok next) :
    next.given.Bounded := by
  unfold long at taken
  split at taken
  · exact bounded_option bounded taken
  · split at taken
    · contradiction
    · exact absurd taken (flag_ne_ok scan _ next)
  · contradiction

theorem bounded_short {letter : Char} {rest : List Char} (bounded : scan.given.Bounded)
    (taken : scan.short letter rest = .ok next) : next.given.Bounded := by
  unfold short at taken
  split at taken
  · split at taken
    all_goals exact bounded_option bounded taken
  · exact absurd taken (flag_ne_ok scan _ next)
  · contradiction

theorem bounded_take (bounded : scan.given.Bounded) (taken : scan.take argument = .ok next) :
    next.given.Bounded := by
  unfold take at taken
  split at taken
  · contradiction
  split at taken
  · cases taken
    exact bounded
  · split at taken
    all_goals exact bounded_long bounded taken
  · exact bounded_short bounded taken
  · unfold plain at taken
    split at taken
    · cases taken
      exact bounded
    · contradiction

end Scan

theorem bounded_fromVariables {vars : Variables} (bounded : given.Bounded)
    (taken : fromVariables vars given setting = .ok after) : after.Bounded := by
  unfold fromVariables at taken
  split at taken
  · cases taken
    exact bounded
  split at taken
  · cases taken
    exact bounded
  split at taken
  · contradiction
  · rename_i set
    cases taken
    exact bounded.put set

/-- Whatever the arguments and the environment say, the capacity is a number of 64 bits. -/
theorem capacity_ofArguments {arguments : List String} {vars : Variables} {config : Config}
    (accepted : ofArguments arguments vars = .ok config) :
    1 ≤ config.clientBufferCapacity ∧ config.clientBufferCapacity < UInt64.size := by
  unfold ofArguments at accepted
  cases scanned : arguments.foldlM Scan.take .start with
  | error stop =>
    rw [scanned] at accepted
    contradiction
  | ok scan =>
    have bounded := foldlM_keeps (·.given.Bounded) (fun _ _ _ => Scan.bounded_take)
      Given.bounded_nothing scanned
    cases resolved : scan.resolve with
    | error stop => simp [scanned, resolved, bind, Except.bind] at accepted
    | ok last =>
      have bounded' := Scan.bounded_resolve bounded resolved
      cases set : Setting.all.foldlM (fromVariables vars) last.given with
      | error stop => simp [scanned, resolved, set, bind, Except.bind] at accepted
      | ok given =>
        simp only [scanned, resolved, set, bind, Except.bind, pure, Except.pure] at accepted
        cases accepted
        exact (foldlM_keeps Given.Bounded (fun _ _ _ => bounded_fromVariables) bounded' set).config

/-- Every such number is the capacity of a configuration. -/
theorem ofArguments_capacity {n : Nat} (denotes : Denotes text n) (one : 1 ≤ n)
    (fits : n < UInt64.size) : ofArguments [] [("CLIENT_BUFFER_CAPACITY", text)]
      = .ok { Config.default with clientBufferCapacity := n } := by
  have read := readCapacity_iff.mpr ⟨denotes, one, fits⟩
  have absent (name : String) (other : ("CLIENT_BUFFER_CAPACITY" = name) = False) :
      Variables.get? [("CLIENT_BUFFER_CAPACITY", text)] name = none := by
    simp [Variables.get?, other]
  have found : Variables.get? [("CLIENT_BUFFER_CAPACITY", text)] "CLIENT_BUFFER_CAPACITY"
      = some text := by
    simp [Variables.get?]
  simp [ofArguments, Scan.resolve, Scan.start, Setting.all, fromVariables, Given.isSet,
    Given.nothing, Setting.envName, absent, found, Given.put, read, pure, Except.pure, bind,
    Except.bind]
  rfl

end Fanout.Config
