import Fanout.Payload
import Fanout.Json.Record

/-!
Events: a notification of a type, for the resource that its scope names, with a payload. An empty
scope makes it global. In JSON text an event is a record; an empty scope and a missing payload are
left out, and a payload of `null` reads back as none.
-/

namespace Fanout

/-! The types of events that are known. Any other text is a type as well. -/

namespace EventType

def shiftCreated : String := "shift.created"

def shiftUpdated : String := "shift.updated"

def shiftDeleted : String := "shift.deleted"

def eventLockChanged : String := "event.lock_changed"

def coverageUpdated : String := "coverage.updated"

end EventType

structure Event (P : Type) where
  type : String
  scope : String
  payload : Option P

namespace Event

variable {P Q : Type}

def of (type scope : String) (payload : P) : Event P := ⟨type, scope, some payload⟩

def global (type : String) (payload : P) : Event P := of type "" payload

def bare (type scope : String) : Event P := ⟨type, scope, none⟩

def isGlobal (event : Event P) : Bool := event.scope.isEmpty

def map (f : P → Q) (event : Event P) : Event Q := ⟨event.type, event.scope, event.payload.map f⟩

instance [BEq P] : BEq (Event P) where
  beq a b := a.type == b.type && a.scope == b.scope && a.payload == b.payload

open Json in
/-- The text of an event whose payload has the text given. -/
def writeParts (type scope : String) (payload : Option Bytes) : Bytes :=
  let member (name : String) (text : Bytes) : Bytes := writeString name ++ 0x3A :: text
  0x7B :: member "type" (writeString type)
    ++ (if scope.isEmpty then [] else 0x2C :: member "scope" (writeString scope))
    ++ (payload.elim [] fun text => 0x2C :: member "payload" text)
    ++ [0x7D]

def write (event : Event Payload) : Except WriteFault Bytes :=
  match event.payload with
  | none => .ok (writeParts event.type event.scope none)
  | some payload =>
    payload.write.map fun text => writeParts event.type event.scope (some text)

/-- The fields of an event as they are read. -/
structure Parts (P : Type) where
  type : Option String
  scope : Option String
  payload : Option (Option P)

/-- Events as records whose payload `reader` reads. -/
def schema (reader : Json.Reader P) : Json.Schema (Parts P) (Event P) where
  title := "Event"
  blank := ⟨none, none, none⟩
  fields := [
    .of "type" (·.type) (fun parts type => { parts with type := some type }) .text,
    .of "scope" (·.scope) (fun parts scope => { parts with scope := some scope }) .text,
    .of "payload" (·.payload) (fun parts payload => { parts with payload := some payload })
      reader.optional]
  build parts :=
    match parts.type with
    | none => .error "type"
    | some type => .ok ⟨type, parts.scope.getD "", parts.payload.join⟩

/-- Reads a text that is one event. The event's own bracket counts among those that may be open. -/
def ofText (text : Bytes) : Except Json.Fault (Event Json.Value) :=
  (schema (.value (Json.maxDepth - 1))).ofText text

/-- Checks that a text is one event, without reading its payload. -/
def check (text : Bytes) : Except Json.Fault (Event Unit) := (schema .skipped).ofText text

end Event

end Fanout
