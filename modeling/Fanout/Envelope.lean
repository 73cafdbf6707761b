import Fanout.Error
import Fanout.Event

/-!
Envelopes, the messages on a bus: the scope by which an event is routed, and the event's own text as
the publisher wrote it. Readers pass that text on byte for byte.
-/

namespace Fanout


structure Envelope where
  scope : String
  /-- The JSON text of the event. -/
  data : Bytes
  deriving DecidableEq, Repr

namespace Envelope

open Json

/-- The text of a JSON value without the blanks around it. -/
def dataOfText (text : Bytes) : Except Fault Bytes := whole Reader.readRaw text

def encodeError (fault : WriteFault) : Error := .because .encode fault.text

def faultError (kind : Error.Kind) (text : Bytes) (fault : Fault) : Error :=
  .because kind (fault.text text)

/-- Writes an event and puts it into an envelope with the event's scope. -/
def sealEvent (event : Event Payload) : Except Error Envelope :=
  match event.write with
  | .error fault => .error (encodeError fault)
  | .ok text =>
    match dataOfText text with
    | .error fault => .error (faultError .encode text fault)
    | .ok data => .ok ⟨event.scope, data⟩

def encode (envelope : Envelope) : Bytes :=
  0x7B :: writeString "scope" ++ 0x3A :: writeString envelope.scope
    ++ 0x2C :: writeString "data" ++ 0x3A :: envelope.data ++ [0x7D]

structure Parts where
  scope : Option String
  data : Option Bytes

def schema : Schema Parts Envelope where
  title := "Envelope"
  blank := ⟨none, none⟩
  fields := [
    .of "scope" (·.scope) (fun parts scope => { parts with scope := some scope }) .text,
    .of "data" (·.data) (fun parts data => { parts with data := some data }) .raw]
  build parts :=
    match parts.data with
    | none => .error "data"
    | some data => .ok ⟨parts.scope.getD "", data⟩

/-- Reads a message off a bus. The data have to be an event. -/
def decode (message : Bytes) : Except Error Envelope :=
  match schema.ofText message with
  | .error fault => .error (faultError .decode message fault)
  | .ok envelope =>
    match Event.check envelope.data with
    | .error fault => .error (faultError .decode envelope.data fault)
    | .ok _ => .ok envelope

end Envelope

end Fanout
