import Fanout.Notice
import Fanout.Stats
import Fanout.Text.Utf8

/-!
The clients of one process. Each has a queue of bounded length and a scope to listen to; a broadcast
offers a message to every registered client that listens to its scope and waits for none of them.
A client that was removed keeps what is in its queue for its receiver to take.
-/

namespace Fanout

/-- A message as clients get it: the text of an event. -/
abbrev Message := Bytes

structure Client where
  /-- The scope to listen to, or nothing for all scopes. -/
  filter : String
  /-- Whether broadcasts reach the client. -/
  registered : Bool
  /-- Whether its receiver is still there. -/
  receiving : Bool
  /-- Whether the handle that removes it is still held. -/
  held : Bool
  /-- The messages to be received, the next one first. -/
  queue : List Message
  deriving DecidableEq, Repr

/-- What became of a message offered to a client. -/
inductive Offer where
  | delivered
  | full
  | gone
  deriving DecidableEq, Repr

/-- What a receiver finds when it takes no message. -/
inductive QueueEnd where
  /-- Nothing yet. -/
  | empty
  /-- Nothing any more. -/
  | closed
  deriving DecidableEq, Repr

namespace Client

def opened (filter : String) : Client := ⟨filter, true, true, true, []⟩

def accepts (client : Client) (scope : String) : Bool :=
  client.filter.isEmpty || client.filter == scope

/-- Takes a message for a queue of this capacity. -/
def offer (capacity : Nat) (message : Message) (client : Client) : Client × Offer :=
  if !client.receiving then (client, .gone)
  else if client.queue.length < capacity then
    ({ client with queue := client.queue ++ [message] }, .delivered)
  else (client, .full)

/-- The next message, or why there is none. -/
def receive (client : Client) : Client × Except QueueEnd Message :=
  match client.queue with
  | message :: queue => ({ client with queue }, .ok message)
  | [] => (client, .error (if client.registered then .empty else .closed))

/-- The receiver is given up with all that is queued for it. -/
def dropReceiver (client : Client) : Client := { client with receiving := false, queue := [] }

end Client

structure Registry where
  /-- The number by which notices name the registry. -/
  number : Nat
  /-- The length of every client's queue, at least one. -/
  capacity : Nat
  /-- All clients that ever subscribed, by serial number. -/
  clients : List Client
  /-- The counters of the broker that the registry serves. -/
  stats : Stats
  deriving DecidableEq, Repr

/-- The length that no queue can exceed. -/
def maxQueueCapacity : Nat := Nat.pow 2 61 - 1

namespace Registry

def new (number capacity : Nat) : Registry := ⟨number, max capacity 1, [], .zero⟩

def id (registry : Registry) (serial : Nat) : ClientId := ⟨registry.number, serial⟩

/-- How many clients are registered. -/
def count (registry : Registry) : Nat := registry.clients.countP (·.registered)

def update (registry : Registry) (serial : Nat) (f : Client → Client) : Registry :=
  { registry with clients := registry.clients.modify serial f }

/-- Registers a client, unless queues of this capacity cannot be made. -/
def subscribe (registry : Registry) (filter : String) : Option (Logged (Registry × Nat)) :=
  if maxQueueCapacity < registry.capacity then none
  else
    let serial := registry.clients.length
    some do
      .note (.registering (registry.id serial) filter)
      return ({ registry with clients := registry.clients ++ [.opened filter] }, serial)

/-- Removes a client, and tells whether it was registered still. -/
def unsubscribe (registry : Registry) (serial : Nat) : Logged (Registry × Bool) :=
  if (registry.clients[serial]?).any (·.registered) then do
    .note (.unregistered (registry.id serial))
    return (registry.update serial ({ · with registered := false }), true)
  else pure (registry, false)

/-- Gives up a client's handle, which removes the client. -/
def dropHandle (registry : Registry) (serial : Nat) : Logged Registry := do
  let (registry, _) ← registry.unsubscribe serial
  return registry.update serial ({ · with held := false })

def dropReceiver (registry : Registry) (serial : Nat) : Registry :=
  registry.update serial (·.dropReceiver)

/-- A client takes the next message from its queue. -/
def receive (registry : Registry) (serial : Nat) : Registry × Except QueueEnd Message :=
  match registry.clients[serial]? with
  | none => (registry, .error .closed)
  | some client =>
    let (client, message) := client.receive
    (registry.update serial fun _ => client, message)

/-- Takes up to `limit` messages, and tells why there are no more if fewer were taken. -/
def receiveUpTo (registry : Registry) (serial : Nat) :
    Nat → Registry × List Message × Option QueueEnd
  | 0 => (registry, [], none)
  | limit + 1 =>
    match registry.receive serial with
    | (registry, .error stop) => (registry, [], some stop)
    | (registry, .ok message) =>
      let (registry, messages, stop) := registry.receiveUpTo serial limit
      (registry, message :: messages, stop)

/-- Takes all messages that are queued. -/
def receiveAll (registry : Registry) (serial : Nat) : Registry × List Message × QueueEnd :=
  match registry.clients[serial]? with
  | none => (registry, [], .closed)
  | some client =>
    (registry.update serial fun client => { client with queue := [] }, client.queue,
      if client.registered then .empty else .closed)

/-- What becomes of a message for this scope at each client, nothing where it is not offered. -/
def offers (registry : Registry) (message : Message) (scope : String) :
    List (Client × Option Offer) :=
  registry.clients.map fun client =>
    if client.registered && client.accepts scope then
      let (client, offer) := client.offer registry.capacity message
      (client, some offer)
    else (client, none)

def offerNotice (registry : Registry) (scope : String) (serial : Nat) : Option Offer → List Notice
  | some .full => [.queueFull (registry.id serial) registry.capacity scope]
  | some .gone => [.receiverGone (registry.id serial)]
  | _ => []

/-- Offers a message to every registered client that listens to its scope, and tells to how many it
was delivered. -/
def broadcast (registry : Registry) (message : Message) (scope : String) :
    Logged (Registry × Nat) :=
  let offers := registry.offers message scope
  let delivered := offers.countP (·.2 = some .delivered)
  let full := offers.countP (·.2 = some .full)
  let stats := { registry.stats with
    delivered := registry.stats.delivered + .ofNat delivered
    droppedFull := registry.stats.droppedFull + .ofNat full }
  ⟨({ registry with clients := offers.map (·.1), stats }, delivered),
    (offers.mapIdx fun serial offer => registry.offerNotice scope serial offer.2).flatten⟩

/-- Removes every client. -/
def closeAll (registry : Registry) : Logged Registry := do
  if 0 < registry.count then .note (.queuesClosed registry.count)
  return { registry with clients := registry.clients.map ({ · with registered := false }) }

end Registry

end Fanout
