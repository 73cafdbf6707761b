import Fanout.Network

/-!
Event streams: the body of a response that carries every message of one subscription, a frame for
each. The stream ends when the client's queue is closed and empty.
-/

namespace Fanout.Http

/-- The label in front of every line of data. -/
def dataLabel : Bytes := Utf8.encode "data: "

def isLineEnd (b : UInt8) : Bool := b == 0x0A || b == 0x0D

/-- The frame of a message: each of its lines is labelled, and a blank line follows. -/
def frame (message : Message) : Bytes :=
  dataLabel ++ message.flatMap (fun b => if isLineEnd b then b :: dataLabel else [b])
    ++ [0x0A, 0x0A]

/-- What a stream has when it is asked for its next frame. -/
inductive Poll where
  | frame (text : Bytes)
  /-- Nothing yet. -/
  | pending
  | ended
  deriving DecidableEq, Repr

structure EventStream where
  client : ClientId
  scope : String
  deriving DecidableEq, Repr

/-- What an event stream carries at one time. -/
structure Chunk where
  text : Bytes
  ended : Bool
  deriving DecidableEq, Repr

namespace EventStream

/-- Opens a stream of the events for a scope, unless its queue would be too long. -/
def start? (network : Network) (broker : Nat) (scope : String) :
    Option (Logged (Network × EventStream)) :=
  (network.subscribe broker scope).map fun subscribed => do
    let (network, client) ← subscribed
    return (network, ⟨client, scope⟩)

/-- Ends a stream, which removes its client. -/
def drop (network : Network) (stream : EventStream) : Logged Network :=
  match network.brokers[stream.client.registry]? with
  | none => pure network
  | some broker => do
    let registry ← broker.registry.dropHandle stream.client.serial
    let registry := registry.dropReceiver stream.client.serial
    return network.setBroker stream.client.registry { broker with registry }

/-- Takes the next frame, if there is one. The stream ends with the queue of its client. -/
def poll (network : Network) (stream : EventStream) : Logged (Network × Poll) :=
  match network.brokers[stream.client.registry]? with
  | none => pure (network, .ended)
  | some broker =>
    let (registry, found) := broker.registry.receive stream.client.serial
    let network := network.setBroker stream.client.registry { broker with registry }
    match found with
    | .ok message => pure (network, .frame (frame message))
    | .error .empty => pure (network, .pending)
    | .error .closed => do
      .note (.streamEnded stream.scope)
      return (← stream.drop network, .ended)

/-- Takes the frames that are there, up to `limit` of them. -/
def readUpTo (network : Network) (stream : EventStream) : Nat → Logged (Network × Chunk)
  | 0 => pure (network, ⟨[], false⟩)
  | limit + 1 => do
    match ← stream.poll network with
    | (network, .frame text) =>
      let (network, chunk) ← stream.readUpTo network limit
      return (network, ⟨text ++ chunk.text, chunk.ended⟩)
    | (network, .pending) => return (network, ⟨[], false⟩)
    | (network, .ended) => return (network, ⟨[], true⟩)

/-- Takes all the frames that are there. -/
def read (network : Network) (stream : EventStream) : Logged (Network × Chunk) :=
  let client := (network.brokers[stream.client.registry]?).bind
    (·.registry.clients[stream.client.serial]?)
  stream.readUpTo network ((client.elim 0 (·.queue.length)) + 1)

end EventStream

end Fanout.Http
