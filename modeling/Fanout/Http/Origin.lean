import Fanout.Notice

/-!
The origins whose pages may read what the service answers. They are sent in a header, so what no
header can hold is left out; a wildcard has no place in a list of origins.
-/

namespace Fanout.Http

/-- Whether a text has no control characters but tabs. -/
def isHeaderValue (text : String) : Bool :=
  text.toList.all fun c => c = '\t' || (' ' ≤ c && c != '\x7f')

inductive OriginFault where
  | wildcard
  deriving DecidableEq, Repr

def OriginFault.text : OriginFault → String
  | .wildcard =>
    "Wildcard origin (`*`) cannot be passed to `AllowOrigin::list`. "
      ++ "Use `AllowOrigin::any()` instead"

def wildcard : String := "*"

/-- Keeps the origins that a header can hold. -/
def headerOrigins : List String → Logged (List String)
  | [] => pure []
  | origin :: origins =>
    if isHeaderValue origin then do return origin :: (← headerOrigins origins)
    else do
      .note (.originIgnored origin)
      headerOrigins origins

def allowOrigins (origins : List String) : Logged (Except OriginFault (List String)) := do
  let origins ← headerOrigins origins
  return if origins.contains wildcard then .error .wildcard else .ok origins

end Fanout.Http
