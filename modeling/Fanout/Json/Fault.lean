import Fanout.Text.Quoted
import Fanout.Text.Ascii
import Fanout.Decimal.Layout

/-!
What can be wrong with a JSON text, where, and how it is worded. A fault keeps the bytes that were
not consumed when it arose, so that its place in the whole text is a matter of counting; a byte that
was looked at and refused counts as consumed.
-/

namespace Fanout.Json

open Text

/-- Floating point in JSON text: written with an exponent from 1e16 and below 1e-5. -/
def floatLayout : Decimal.Layout := ⟨-5, 15⟩

/-- The same for single precision, which turns to exponents from 1e13 and below 1e-6. -/
def singleLayout : Decimal.Layout := ⟨-6, 12⟩

/-- A kind of value found in the place of another. -/
inductive Found where
  | null
  | bool (b : Bool)
  | integer (i : Int)
  | float (x : Float)
  | string (s : String)
  | sequence
  | map

def Found.text : Found → String
  | .null => "null"
  | .bool b => s!"boolean `{b}`"
  | .integer i => s!"integer `{i}`"
  | .float x => "floating point `" ++ ascii ((floatLayout.write? (.ofFloat x)).getD []) ++ "`"
  | .string s => s!"string {quote s}"
  | .sequence => "sequence"
  | .map => "map"

inductive Cause where
  | valueEnds
  | listEnds
  | objectEnds
  | stringEnds
  | expectedColon
  | expectedCommaInList
  | expectedCommaInObject
  | expectedLiteral
  | expectedValue
  | invalidEscape
  | invalidNumber
  | numberOutOfRange
  | invalidCodePoint
  | controlCharacter
  | keyNotString
  | loneSurrogate
  | unfinishedSurrogate
  | trailingComma
  | trailingCharacters
  | nestedTooDeep
  | unexpectedType (found : Found) (expected : String)
  | tooFewElements (length : Nat) (record : String) (fields : Nat)
  | missingField (name : String)
  | duplicateField (name : String)

def Cause.text : Cause → String
  | .valueEnds => "EOF while parsing a value"
  | .listEnds => "EOF while parsing a list"
  | .objectEnds => "EOF while parsing an object"
  | .stringEnds => "EOF while parsing a string"
  | .expectedColon => "expected `:`"
  | .expectedCommaInList => "expected `,` or `]`"
  | .expectedCommaInObject => "expected `,` or `\x7d`"
  | .expectedLiteral => "expected ident"
  | .expectedValue => "expected value"
  | .invalidEscape => "invalid escape"
  | .invalidNumber => "invalid number"
  | .numberOutOfRange => "number out of range"
  | .invalidCodePoint => "invalid unicode code point"
  | .controlCharacter => "control character (\\u0000-\\u001F) found while parsing a string"
  | .keyNotString => "key must be a string"
  | .loneSurrogate => "lone leading surrogate in hex escape"
  | .unfinishedSurrogate => "unexpected end of hex escape"
  | .trailingComma => "trailing comma"
  | .trailingCharacters => "trailing characters"
  | .nestedTooDeep => "recursion limit exceeded"
  | .unexpectedType found expected => s!"invalid type: {found.text}, expected {expected}"
  | .tooFewElements length record fields =>
    s!"invalid length {length}, expected struct {record} with {fields} elements"
  | .missingField name => s!"missing field `{name}`"
  | .duplicateField name => s!"duplicate field `{name}`"

/-- Lines count from one, columns in bytes from the start of the line. -/
structure Place where
  line : Nat
  column : Nat
  deriving DecidableEq, Repr

def Place.after (consumed : Bytes) : Place :=
  ⟨1 + consumed.count 0x0A, (consumed.reverse.takeWhile (· != 0x0A)).length⟩

structure Fault where
  cause : Cause
  /-- The bytes behind the place of the fault. -/
  rest : Bytes
  /-- The place within a text of its own that a string of this text holds, if the fault is there. -/
  within : Option Place

def Fault.place (fault : Fault) (whole : Bytes) : Place :=
  fault.within.getD (.after (whole.take (whole.length - fault.rest.length)))

def Fault.text (fault : Fault) (whole : Bytes) : String :=
  let place := fault.place whole
  s!"{fault.cause.text} at line {place.line} column {place.column}"

/-- A fault of the text `whole`, seen from the text that holds it in a string and goes on with
`rest`. -/
def Fault.held (fault : Fault) (whole rest : Bytes) : Fault :=
  ⟨fault.cause, rest, some (fault.place whole)⟩

/-- The outcome of reading from the front of a text: what was read and the bytes behind it. -/
abbrev Read (α : Type) := Except Fault (α × Bytes)

def fail {α : Type} (cause : Cause) (rest : Bytes) : Except Fault α := .error ⟨cause, rest, none⟩

end Fanout.Json
