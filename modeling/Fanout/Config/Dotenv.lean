import Fanout.Config.Arguments
import Fanout.Text.Blank

/-!
Files of variables: a name, an equals sign and a value on each line. Values may be quoted, and
quoted ones go on over lines; a dollar sign puts in the value of another variable. Reading stops at
the first line that is wrong, and what comes before it counts.
-/

namespace Fanout.Config.Dotenv

open Text

/-- How a line stands at some point of it. -/
inductive LineState where
  | complete
  | blank
  | escape
  | single
  | singleEscape
  | double
  | doubleEscape
  | comment
  deriving DecidableEq, Repr

def LineState.step (state : LineState) (c : Char) : LineState :=
  let outside : LineState :=
    if c = '\\' then .escape else if c = '"' then .double else if c = '\'' then .single
    else .complete
  match state with
  | .blank => if c = '#' then .comment else outside
  | .complete => if isBlank c && c != '\n' && c != '\r' then .blank else outside
  | .escape => .complete
  | .double => if c = '\\' then .doubleEscape else if c = '"' then .complete else .double
  | .doubleEscape => .double
  | .single => if c = '\\' then .singleEscape else if c = '\'' then .complete else .single
  | .singleEscape => .single
  | .comment => .comment

/-- Where a line ends: its state there, and its text up to a comment. -/
def LineState.through (state : LineState) : List Char → LineState × List Char
  | [] => (state, [])
  | c :: cs =>
    match state.step c with
    | .comment => (.comment, [])
    | next =>
      let (last, text) := next.through cs
      (last, c :: text)

/-- The lines of a text, each with its line end. -/
def splitLines : List Char → List (List Char)
  | [] => []
  | '\n' :: cs => ['\n'] :: splitLines cs
  | c :: cs =>
    match splitLines cs with
    | [] => [[c]]
    | line :: lines => if cs.head? = some '\n' then [c, '\n'] :: lines else (c :: line) :: lines

def dropLineEnd (line : List Char) : List Char :=
  match line.reverse with
  | '\n' :: '\r' :: r => r.reverse
  | '\n' :: r => r.reverse
  | _ => line

/-- Joins the lines that a quoted value runs over. The last item is missing where the text ends
inside one. -/
def joinLines (state : LineState) (begun : List Char) : List (List Char) → List (Option (List Char))
  | [] => if state = .complete then [] else [none]
  | line :: lines =>
    let whole := begun ++ line
    if (whole.dropWhile isBlank).head? = some '#' then some [] :: joinLines .complete [] lines
    else
      match state.through line with
      | (.complete, _) => some (dropLineEnd whole) :: joinLines .complete [] lines
      | (.comment, text) => some (begun ++ text) :: joinLines .complete [] lines
      | (open', _) => joinLines open' whole lines

/-- How a value is being read. -/
inductive ValueState where
  | plain
  | single
  | double
  | ended
  deriving DecidableEq, Repr

/-- The name of a variable that is being read. -/
inductive Naming where
  | bare
  | braced
  deriving DecidableEq, Repr

structure ValueScan where
  state : ValueState
  escaped : Bool
  naming : Option Naming
  /-- The name read so far, last character first. -/
  name : List Char
  /-- The value read so far, last character first. -/
  done : List Char
  deriving DecidableEq, Repr

def ValueScan.start : ValueScan := ⟨.plain, false, none, [], []⟩

/-- Puts the value of the variable in whose name has been read. -/
def ValueScan.substitute (look : String → String) (scan : ValueScan) : ValueScan :=
  { scan with
    naming := none, name := []
    done := (look (String.ofList scan.name.reverse)).toList.reverse ++ scan.done }

def ValueScan.push (scan : ValueScan) (c : Char) : ValueScan := { scan with done := c :: scan.done }

def openBrace : Char := '\x7b'

def closeBrace : Char := '\x7d'

/-- Takes a character of a value. -/
def ValueScan.step (look : String → String) (scan : ValueScan) (c : Char) : Option ValueScan :=
  if scan.state = .ended then if c = ' ' ∨ c = '\t' then some scan else none
  else if scan.escaped then
    if c = 'n' then some { scan.push '\n' with escaped := false }
    else if c = '\\' ∨ c = '\'' ∨ c = '"' ∨ c = '$' ∨ c = ' ' then
      some { scan.push c with escaped := false }
    else none
  else if scan.state = .single then
    some (if c = '\'' then { scan with state := .plain } else scan.push c)
  else
    match scan.naming with
    | some .braced =>
      some (if c.isAlphanum || c != closeBrace then { scan with name := c :: scan.name }
        else scan.substitute look)
    | some .bare =>
      if c.isAlphanum then some { scan with name := c :: scan.name }
      else if c = openBrace ∧ scan.name = [] then some { scan with naming := some .braced }
      else
        let scan := scan.substitute look
        some (if c = '$' then { scan with naming := some .bare } else scan.push c)
    | none =>
      if c = '$' then some { scan with naming := some .bare }
      else if scan.state = .double then
        some (if c = '"' then { scan with state := .plain }
          else if c = '\\' then { scan with escaped := true }
          else scan.push c)
      else if c = '\'' then some { scan with state := .single }
      else if c = '"' then some { scan with state := .double }
      else if c = '\\' then some { scan with escaped := true }
      else if c = ' ' ∨ c = '\t' then some { scan with state := .ended }
      else some (scan.push c)

def scanValue (look : String → String) (scan : ValueScan) : List Char → Option ValueScan
  | [] => some scan
  | c :: cs =>
    if scan.state = .ended ∧ c = '#' then some scan
    else (scan.step look c).bind fun scan => scanValue look scan cs

/-- The value that a text denotes. -/
def value? (look : String → String) (text : List Char) : Option String :=
  match scanValue look .start text with
  | none => none
  | some scan =>
    if scan.naming = some .braced ∨ scan.state = .single ∨ scan.state = .double then none
    else
      let scan := if scan.naming.isSome then scan.substitute look else scan
      some (String.ofList scan.done.reverse)

def isNameChar (c : Char) : Bool := c.isAlphanum || c = '_' || c = '.'

/-- A name at the front of a text, and what follows the blanks behind it. -/
def name? (text : List Char) : Option (String × List Char) :=
  match text with
  | c :: _ =>
    if c.isAlpha || c = '_' then
      some (String.ofList (text.takeWhile isNameChar),
        (text.dropWhile isNameChar).dropWhile isBlank)
    else none
  | [] => none

def afterEquals? : List Char → Option (List Char)
  | '=' :: r => some (r.dropWhile isBlank)
  | _ => none

/-- A name and what follows its equals sign. -/
def assignment? (text : List Char) : Option (String × List Char) :=
  (name? text).bind fun (name, rest) => (afterEquals? rest).map (name, ·)

/-- An assignment that may have the word `export` before it. -/
def exported? (text : List Char) : Option (String × List Char) :=
  assignment? text <|> (name? text).bind fun (name, rest) =>
    if name = "export" then assignment? rest else none

/-- What a line says: nothing, or the value of a variable. There is no answer for a wrong line. -/
def line? (look : String → String) (line : List Char) : Option (Option (String × String)) :=
  let text := ((line.reverse.dropWhile isBlank).reverse).dropWhile isBlank
  if text.isEmpty || text.head? = some '#' then some none
  else
    (exported? text).bind fun (name, rest) =>
      if rest.isEmpty || rest.head? = some '#' then some (some (name, ""))
      else (value? look rest).map fun value => some (name, value)

/-- Adds the variables of a file's lines to those there are, which take precedence. -/
def addLines (vars : Variables) (read : Variables) :
    List (Option (List Char)) → Variables
  | [] | none :: _ => vars
  | some line :: lines =>
    let look (name : String) : String :=
      (vars.get? name <|> read.get? name).getD ""
    match line? look line with
    | none => vars
    | some none => addLines vars read lines
    | some (some (name, value)) =>
      let vars :=
        if (vars.get? name).isSome then vars else vars ++ [(name, value)]
      addLines vars ((name, value) :: read) lines

def dropMark : List Char → List Char
  | '\uFEFF' :: cs => cs
  | cs => cs

/-- The variables there are with those of a file. -/
def load (vars : Variables) (file : String) : Variables :=
  addLines vars [] (joinLines .complete [] (splitLines (dropMark file.toList)))

end Fanout.Config.Dotenv
