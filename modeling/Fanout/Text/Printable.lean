/-!
Text without the control sequences that a terminal would act on. A sequence starts with an escape
character; other control characters that leave no blank are left out too.
-/

namespace Fanout.Text

/-- How far into a control sequence a text has come. -/
inductive Control where
  | none
  | escape
  /-- Behind an escape character and a blank or a mark. -/
  | escapeMark
  /-- A sequence of numbers that a letter ends. -/
  | numbers
  /-- A command that a bell ends. -/
  | command
  /-- A string that only another escape ends. -/
  | string
  deriving DecidableEq, Repr

namespace Control

def isGap (c : Char) : Bool := c = '\t' || c = '\n' || c = '\x0c' || c = '\x0d'

/-- The state behind the character that follows an escape character. -/
def afterEscape (c : Char) : Control :=
  if c = '[' then .numbers
  else if c = ']' then .command
  else if c = 'P' || c = 'X' || c = '^' || c = '_' then .string
  else if ' ' ≤ c && c ≤ '/' then .escapeMark
  else if '0' ≤ c && c ≤ '~' then .none
  else .escape

/-- The state behind a character, and whether the character is left in. -/
def step (state : Control) (c : Char) : Control × Bool :=
  if c = '\x1b' then (.escape, false)
  else if c = '\x18' || c = '\x1a' then (.none, false)
  else
    match state with
    | .none => (.none, isGap c || (' ' ≤ c && c != '\x7f'))
    | .escape => if isGap c then (.none, true) else (afterEscape c, false)
    | .escapeMark =>
      if isGap c then (.none, true) else (if '0' ≤ c && c ≤ '~' then .none else state, false)
    | .numbers =>
      if isGap c then (.none, true) else (if '@' ≤ c && c ≤ '~' then .none else state, false)
    | .command => (if c = '\x07' then .none else state, false)
    | .string => (state, false)

def strip (state : Control) : List Char → List Char
  | [] => []
  | c :: cs =>
    let (next, kept) := state.step c
    if kept then c :: next.strip cs else next.strip cs

end Control

def printable (text : String) : String := String.ofList (Control.none.strip text.toList)

end Fanout.Text
