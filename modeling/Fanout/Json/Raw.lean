import Fanout.Json.Record

/-!
JSON text that is passed on as it stands. It is checked when it is made, so that no other text can
be taken for it.
-/

namespace Fanout.Json

structure Raw where
  text : Bytes
  isValue : ∃ source, whole Reader.readRaw source = .ok text

/-- Keeps the text of a value, without the blanks around it. -/
def Raw.ofText (source : Bytes) : Except Fault Raw :=
  match read : whole Reader.readRaw source with
  | .error fault => .error fault
  | .ok text => .ok ⟨text, source, read⟩

end Fanout.Json
