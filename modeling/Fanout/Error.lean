/-!
Errors of the delivery layer: a kind and, if something else is to blame, its source, which may be an
error again.
-/

namespace Fanout

inductive Error.Kind where
  | encode
  | decode
  | invalidUrl
  | connection
  | publish
  | subscribe
  deriving DecidableEq, Repr

def Error.Kind.text : Kind → String
  | .encode => "Codec(Encode)"
  | .decode => "Codec(Decode)"
  | .invalidUrl => "Bus(InvalidUrl)"
  | .connection => "Bus(Connection)"
  | .publish => "Bus(Publish)"
  | .subscribe => "Bus(Subscribe)"

inductive Error where
  | plain (kind : Error.Kind)
  /-- An error with a message of another layer as its source. -/
  | because (kind : Error.Kind) (source : String)
  | wrapping (kind : Error.Kind) (source : Error)
  deriving DecidableEq, Repr

namespace Error

def kind : Error → Kind
  | .plain kind | .because kind _ | .wrapping kind _ => kind

def text : Error → String
  | .plain kind => s!"SSE Error ({kind.text})"
  | .because kind source => s!"SSE Error ({kind.text}): {source}"
  | .wrapping kind source => s!"SSE Error ({kind.text}): {source.text}"

/-- The texts of the sources, nearest first. -/
def chain : Error → List String
  | .plain _ => []
  | .because _ source => [source]
  | .wrapping _ source => source.text :: source.chain

end Error

end Fanout
