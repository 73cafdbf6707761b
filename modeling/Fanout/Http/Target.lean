import Fanout.Text.Ascii

/-!
Request targets: the path and the query that a request line names. A target is a path, an asterisk,
an authority, or an absolute URI, of which only the path and the query matter here.
-/

namespace Fanout.Http

open Text

/-- Why a request is refused before it is routed. -/
inductive RequestFault where
  | targetTooLong
  | emptyTarget
  | invalidCharacter
  | invalidAuthority
  | invalidFormat
  | schemeTooLong
  | invalidMethod
  deriving DecidableEq, Repr

def RequestFault.text : RequestFault → String
  | .targetTooLong => "uri too long"
  | .emptyTarget => "empty string"
  | .invalidCharacter => "invalid uri character"
  | .invalidAuthority => "invalid authority"
  | .invalidFormat => "invalid format"
  | .schemeTooLong => "scheme too long"
  | .invalidMethod => "invalid HTTP method"

/-- A target with no path is an authority alone. -/
structure Target where
  path : Bytes
  query : Bytes
  deriving DecidableEq, Repr

def isLetter (b : UInt8) : Bool := (0x41 ≤ b && b ≤ 0x5A) || (0x61 ≤ b && b ≤ 0x7A)

def isPathByte (b : UInt8) : Bool :=
  b == 0x21 || b == 0x22 || (0x24 ≤ b && b ≤ 0x3B) || b == 0x3D || (0x40 ≤ b && b ≤ 0x5F)
    || 0x61 ≤ b

def isQueryByte (b : UInt8) : Bool :=
  b == 0x21 || (0x24 ≤ b && b ≤ 0x3B) || b == 0x3D || 0x3F ≤ b

def isSchemeByte (b : UInt8) : Bool :=
  isDigit b || isLetter b || b == 0x2B || b == 0x2D || b == 0x2E || b == 0x7E

/-- The bytes of an authority besides the percent sign. -/
def isAuthorityByte (b : UInt8) : Bool :=
  isDigit b || isLetter b || b == 0x21 || b == 0x24 || (0x26 ≤ b && b ≤ 0x2E) || b == 0x3A
    || b == 0x3B || b == 0x3D || b == 0x40 || b == 0x5B || b == 0x5D || b == 0x5F || b == 0x7E

/-- The path and the query; what follows a number sign is not looked at. -/
def pathAndQuery (s : Bytes) : Except RequestFault Target :=
  let path := s.takeWhile fun b => b != 0x3F && b != 0x23
  let rest := s.drop path.length
  let query := match rest with
    | 0x3F :: r => r.takeWhile (· != 0x23)
    | _ => []
  if !path.all isPathByte || !query.all isQueryByte then .error .invalidCharacter
  else .ok ⟨if path.isEmpty then [0x2F] else path, query⟩

/-- What has been seen of an authority. -/
structure AuthorityScan where
  colons : Nat
  opened : Bool
  closed : Bool
  percent : Bool
  /-- Whether the last byte was an at sign. -/
  afterAt : Bool

def AuthorityScan.start : AuthorityScan := ⟨0, false, false, false, false⟩

def maxColons : Nat := 8

def AuthorityScan.step (scan : AuthorityScan) (b : UInt8) : Except RequestFault AuthorityScan :=
  if b = 0x3A then
    if maxColons ≤ scan.colons then .error .invalidAuthority
    else .ok { scan with colons := scan.colons + 1, afterAt := false }
  else if b = 0x5B then
    if scan.percent || scan.opened then .error .invalidAuthority
    else .ok { scan with opened := true, afterAt := false }
  else if b = 0x5D then
    if !scan.opened || scan.closed then .error .invalidAuthority
    else .ok { scan with closed := true, colons := 0, percent := false, afterAt := false }
  else if b = 0x40 then .ok { scan with colons := 0, percent := false, afterAt := true }
  else if b = 0x25 then .ok { scan with percent := true, afterAt := false }
  else if isAuthorityByte b then .ok { scan with afterAt := false }
  else .error .invalidCharacter

/-- Checks the authority at the front of `s` and gives back what follows it. -/
def skipAuthority (s : Bytes) : Except RequestFault Bytes := do
  let authority := s.takeWhile fun b => b != 0x2F && b != 0x3F && b != 0x23
  let scan ← authority.foldlM AuthorityScan.step .start
  if scan.opened != scan.closed || 1 < scan.colons || scan.afterAt || scan.percent then
    throw .invalidAuthority
  return s.drop authority.length

def lower (b : UInt8) : UInt8 := if 0x41 ≤ b && b ≤ 0x5A then b + 0x20 else b

def maxSchemeLength : Nat := 64

/-- What follows the scheme and its two slashes, if there is a scheme. -/
def stripScheme? (s : Bytes) : Except RequestFault (Option Bytes) :=
  let scheme := s.takeWhile isSchemeByte
  match s.drop scheme.length with
  | 0x3A :: 0x2F :: 0x2F :: r =>
    if maxSchemeLength < scheme.length then .error .schemeTooLong else .ok (some r)
  | _ => .ok none

def maxTargetLength : Nat := 65534

namespace Target

def ofAbsolute (s : Bytes) : Except RequestFault Target := do
  match ← stripScheme? s with
  | none =>
    if (← skipAuthority s).isEmpty then return ⟨[], []⟩ else throw .invalidFormat
  | some r =>
    let rest ← skipAuthority r
    if rest.length = r.length then throw .invalidFormat
    pathAndQuery rest

def ofBytes (s : Bytes) : Except RequestFault Target :=
  if maxTargetLength < s.length then .error .targetTooLong
  else
    match s with
    | [] => .error .emptyTarget
    | [0x2A] => .ok ⟨s, []⟩
    | [b] =>
      if b = 0x2F then .ok ⟨s, []⟩
      else do
        if (← skipAuthority s).isEmpty then return ⟨[], []⟩ else throw .invalidCharacter
    | b :: _ => if b = 0x2F then pathAndQuery s else ofAbsolute s

end Target

/-- The bytes of a method's name. -/
def isTokenChar (c : Char) : Bool := c.isAlphanum || "!#$%&'*+-.^_`|~".toList.contains c

def checkMethod (method : String) : Except RequestFault Unit :=
  if method ≠ "" ∧ method.toList.all isTokenChar then .ok () else .error .invalidMethod

end Fanout.Http
