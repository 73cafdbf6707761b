import Fanout.Bus.Ipv6
import Fanout.Error

/-!
Where a Redis server is looked for, and the URLs that say so: a host and a port, or a socket in the
file system. The database and the protocol that a URL names are only checked.
-/

namespace Fanout

open Text

inductive Address where
  | tcp (host : String) (port : Nat)
  | socket (path : String)
  deriving DecidableEq, Repr

/-- Why a URL gives no address. -/
inductive UrlFault where
  | notParsed
  | noHost
  | noPath
  | noEncryption
  | database
  | username
  | password
  | protocol (version : String)
  deriving DecidableEq, Repr

def UrlFault.text : UrlFault → String
  | .notParsed => "Redis URL did not parse- InvalidClientConfig"
  | .noHost => "Missing hostname- InvalidClientConfig"
  | .noPath => "Missing path- InvalidClientConfig"
  | .noEncryption => "can't connect with TLS, the feature is not enabled- InvalidClientConfig"
  | .database => "Invalid database number- InvalidClientConfig"
  | .username => "Username is not valid UTF-8 string- InvalidClientConfig"
  | .password => "Password is not valid UTF-8 string- InvalidClientConfig"
  | .protocol version => s!"Invalid protocol version - InvalidClientConfig: {version}"

namespace Address

def defaultPort : Nat := 6379

def text : Address → String
  | .tcp host port => s!"{host}:{port}"
  | .socket path => path

/-- Why nothing is reached at an address where nothing listens. -/
def refusal : Address → String
  | .tcp .. => "Network is unreachable (os error 101)"
  | .socket _ => "No such file or directory (os error 2)"

/-- A URL by its parts. The user name and the password are as they were written. -/
structure Url where
  scheme : String
  user : Bytes
  password : Bytes
  host : Option String
  port : Option Nat
  /-- The segments behind the slashes of a path; none without a slash. -/
  segments : List Bytes
  query : Bytes
  deriving DecidableEq, Repr

def isLower (b : UInt8) : Bool := 0x61 ≤ b && b ≤ 0x7A

def toLower (b : UInt8) : UInt8 := if 0x41 ≤ b && b ≤ 0x5A then b + 0x20 else b

/-- Leaves out control characters and blanks at both ends, and tabs and line ends anywhere. -/
def clean (s : Bytes) : Bytes :=
  let blank (b : UInt8) : Bool := b ≤ 0x20
  (((s.dropWhile blank).reverse.dropWhile blank).reverse).filter fun b =>
    b != 0x09 && b != 0x0A && b != 0x0D

/-- Goes through the segments of a path: one dot stands for no segment, two take back the last one,
and where they come last an empty segment follows. -/
def normalize (done : List Bytes) : List Bytes → List Bytes
  | [] => done.reverse
  | s :: parts =>
    let plain := percentDecode s
    let isDot := plain = [0x2E]
    let isDots := plain = [0x2E, 0x2E]
    let done := if isDot then done else if isDots then done.drop 1 else s :: done
    normalize (if (isDot || isDots) && parts.isEmpty then [] :: done else done) parts

/-- The segments of a path with its first slash. -/
def segmentsOf (path : Bytes) : List Bytes :=
  match path with
  | [] => []
  | 0x2F :: r => normalize [] (splitAt 0x2F r)
  | r => normalize [] (splitAt 0x2F r)

def forbiddenInHost : List UInt8 :=
  [0x00, 0x09, 0x0A, 0x0D, 0x20, 0x23, 0x2F, 0x3A, 0x3C, 0x3E, 0x3F, 0x40, 0x5B, 0x5C, 0x5D, 0x5E,
    0x7C]

def escapeByte (b : UInt8) : List Char :=
  if 0x20 ≤ b && b ≤ 0x7E then [Char.ofNat b.toNat]
  else ['%', (hexDigit (b.toNat / 16)).toUpper, (hexDigit (b.toNat % 16)).toUpper]

/-- The host as an address names it. -/
def hostOf? (s : Bytes) : Option String :=
  match s with
  | 0x5B :: r =>
    if r.getLast? = some 0x5D then (Ipv6.ofBytes? r.dropLast).map Ipv6.text else none
  | s =>
    if s.any forbiddenInHost.contains then none
    else some (String.ofList (s.flatMap escapeByte))

/-- How many bytes of a text belong to its host: up to the first colon outside brackets. -/
def hostLength (inside : Bool) : Bytes → Nat
  | [] => 0
  | b :: r =>
    if b = 0x3A ∧ !inside then 0
    else 1 + hostLength (if b = 0x5B then true else if b = 0x5D then false else inside) r

/-- A port at the front of a text, and what follows it. -/
def portOf? (s : Bytes) : Option (Option Nat × Bytes) :=
  let ds := s.takeWhile isDigit
  let r := s.dropWhile isDigit
  if 65535 < decimal ds then none
  else if r.isEmpty || r.head? = some 0x5C then
    some (if ds.isEmpty then none else some (decimal ds), r)
  else none

/-- The user and the rest of an authority, split at its last at sign. -/
def splitUser (authority : Bytes) : Option Bytes × Bytes :=
  if authority.contains 0x40 then
    let rest := (authority.reverse.takeWhile (· != 0x40)).reverse
    (some (authority.take (authority.length - rest.length - 1)), rest)
  else (none, authority)

/-- Reads what stands behind the two slashes: an authority, a path and a query. -/
def Url.ofAuthority? (scheme : String) (s : Bytes) (query : Bytes) : Option Url :=
  let authority := s.takeWhile (· != 0x2F)
  let path := s.drop authority.length
  let (user?, rest) := splitUser authority
  let (user, password) := cutAt 0x3A (user?.getD [])
  let host := rest.take (hostLength false rest)
  let afterHost := rest.drop host.length
  if user? = some [] ∧ rest = [] ∧ (path ≠ [] ∨ query ≠ []) then none
  else do
    let name ← hostOf? host
    let (port, more) ← match afterHost with
      | 0x3A :: r => if host.isEmpty then none else portOf? r
      | r => some (none, r)
    if host.isEmpty && !(user.isEmpty && password.isEmpty) then none
    else some {
      scheme, user, password, port, query
      host := if host.isEmpty then none else some name
      segments := segmentsOf (more ++ path) }

def Url.ofBytes? (text : Bytes) : Option Url :=
  let s := clean text
  let isSchemeByte (b : UInt8) : Bool :=
    isDigit b || isLower (toLower b) || b == 0x2B || b == 0x2D || b == 0x2E
  let scheme := s.takeWhile isSchemeByte
  if !(scheme.head?).any (fun b => isLower (toLower b)) then none
  else
    let name := ascii (scheme.map toLower)
    let (rest, _) := cutAt 0x23 (s.drop scheme.length)
    let (body, query) := cutAt 0x3F rest
    match body with
    | 0x3A :: 0x2F :: 0x2F :: r => ofAuthority? name r query
    | 0x3A :: 0x2F :: r => some ⟨name, [], [], none, none, segmentsOf (0x2F :: r), query⟩
    | 0x3A :: _ => some ⟨name, [], [], none, none, [], query⟩
    | _ => none

/-- A decimal number of 64 bits with its sign, as a database is numbered. -/
def isNumber (s : Bytes) : Bool :=
  let (negative, ds) := match s with
    | 0x2D :: r => (true, r)
    | 0x2B :: r => (false, r)
    | r => (false, r)
  !ds.isEmpty && ds.all isDigit && decimal ds < Nat.pow 2 63 + if negative then 1 else 0

/-- The value that the last pair of this name has. -/
def parameter? (url : Url) (name : String) : Option String :=
  ((formPairs url.query).reverse.find? (·.1 = name)).map (·.2)

def checkProtocol (url : Url) : Except UrlFault Unit :=
  match parameter? url "protocol" with
  | none => .ok ()
  | some version =>
    if ["2", "resp2", "3", "resp3"].contains version then .ok () else .error (.protocol version)

/-- The path without the slashes at its ends. -/
def trimmedPath (segments : List Bytes) : Bytes :=
  let slash (b : UInt8) : Bool := b == 0x2F
  let path := segments.flatMap (0x2F :: ·)
  ((path.dropWhile slash).reverse.dropWhile slash).reverse

def ofHost (url : Url) : Except UrlFault Address := do
  let some host := url.host | throw .noHost
  if url.scheme = "rediss" then throw .noEncryption
  let database := trimmedPath url.segments
  if !database.isEmpty && !isNumber database then throw .database
  if (Utf8.decode? (percentDecode url.user)).isNone then throw .username
  if (Utf8.decode? (percentDecode url.password)).isNone then throw .password
  checkProtocol url
  return .tcp host (url.port.getD defaultPort)

/-- A path that ends in a drive letter gets a slash behind it. -/
def closeDrive (path : Bytes) : Bytes :=
  match path.reverse with
  | mark :: letter :: _ :: _ =>
    if (mark = 0x3A ∨ mark = 0x7C) ∧ isLower (toLower letter) then path ++ [0x2F] else path
  | _ => path

def ofPath (url : Url) : Except UrlFault Address := do
  if url.segments.isEmpty || (url.host.isSome && url.host != some "localhost") then throw .noPath
  if (parameter? url "db").any fun db => !isNumber (Utf8.encode db) then throw .database
  checkProtocol url
  let path := url.segments.flatMap fun segment => 0x2F :: percentDecode segment
  return .socket (Utf8.replaceBroken (closeDrive path))

/-- The address that a URL names. -/
def ofUrl (text : String) : Except UrlFault Address :=
  match Url.ofBytes? (Utf8.encode text) with
  | none => .error .notParsed
  | some url =>
    if url.scheme = "redis" ∨ url.scheme = "rediss" then ofHost url
    else if url.scheme = "unix" ∨ url.scheme = "redis+unix" then ofPath url
    else .error .notParsed

end Address

end Fanout
