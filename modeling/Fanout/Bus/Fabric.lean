import Fanout.Bus.Address
import Fanout.Bus.Hub
import Fanout.Bus.Server
import Fanout.Notice

/-!
The buses that brokers are connected to. A bus takes writes to a channel and opens streams on it;
behind it stands a hub in memory, a server, or nothing that answers.
-/

namespace Fanout

inductive Bus where
  | memory (hub : Nat)
  /-- Takes no writes and opens no streams. -/
  | unavailable
  /-- Opens streams on a hub but takes no writes. -/
  | writeFailing (hub : Nat)
  /-- Writes to a hub but opens no streams. -/
  | subscribeFailing (hub : Nat)
  /-- A connection to a server; `connected` tells whether it has been opened for writing. -/
  | server (server : Nat) (connected : Bool)
  /-- A connection to an address where nothing listens. -/
  | unreachable (address : Address)
  deriving DecidableEq, Repr

/-- An open stream of messages. -/
inductive Stream where
  | hub (hub channel reader : Nat)
  | server (server subscriber : Nat)
  deriving DecidableEq, Repr

structure Fabric where
  hubs : List Hub
  servers : List Server
  buses : List Bus

namespace Fabric

def empty : Fabric := ⟨[], [], []⟩

def addBus (fabric : Fabric) (bus : Bus) : Fabric × Nat :=
  ({ fabric with buses := fabric.buses ++ [bus] }, fabric.buses.length)

/-- A bus on a hub of its own. -/
def addHub (fabric : Fabric) (capacity : Nat) : Fabric × Nat :=
  addBus { fabric with hubs := fabric.hubs ++ [.new capacity] } (.memory fabric.hubs.length)

/-- A bus on a server of its own. -/
def addServer (fabric : Fabric) (behavior : Server.Behavior) : Fabric × Nat :=
  addBus { fabric with servers := fabric.servers ++ [.new behavior] }
    (.server fabric.servers.length false)

/-- A bus to the address that a URL names. Nothing is opened yet. -/
def addUrl (fabric : Fabric) (url : String) : Except Error (Logged (Fabric × Nat)) :=
  match Address.ofUrl url with
  | .error fault => .error (.because .invalidUrl fault.text)
  | .ok address => .ok do
    .note (.redisConfigured address.text)
    return fabric.addBus (.unreachable address)

def bus (fabric : Fabric) (bus : Nat) : Bus := fabric.buses[bus]?.getD .unavailable

/-- The hub behind a bus. -/
def hub? (fabric : Fabric) (bus : Nat) : Option Nat :=
  match fabric.bus bus with
  | .memory hub | .writeFailing hub | .subscribeFailing hub => some hub
  | _ => none

def publishError (channel : String) : Error :=
  .because .publish s!"bus unavailable, cannot publish to '{channel}'"

def subscribeError (channel : String) : Error :=
  .because .subscribe s!"bus unavailable, cannot subscribe to '{channel}'"

/-- What is answered where no server listens. -/
def refusedError : Error := .because .connection Server.refusal

def writeHub (fabric : Fabric) (hub : Nat) (channel : String) (message : Bytes) : Logged Fabric :=
  match fabric.hubs[hub]? with
  | none => pure fabric
  | some memory => do
    let (memory, receivers) := memory.write channel message
    .note (.written channel receivers)
    return { fabric with hubs := fabric.hubs.set hub memory }

/-- Asks a server. What it refuses is an error of this kind. -/
def ask {α : Type} (fabric : Fabric) (server : Nat) (kind : Error.Kind)
    (request : Server → Server × Except String α) : Fabric × Except Error α :=
  match fabric.servers[server]? with
  | none => (fabric, .error refusedError)
  | some host =>
    let (host, answer) := request host
    ({ fabric with servers := fabric.servers.set server host }, answer.mapError (.because kind ·))

/-- Opens the connection that a bus writes on, if it has not been opened yet. -/
def connect (fabric : Fabric) (bus server : Nat) (connected : Bool) :
    Logged (Fabric × Except Error Unit) :=
  if connected then pure (fabric, .ok ())
  else do
    .note .redisConnecting
    match fabric.ask server .connection (·.connect) with
    | (fabric, .error error) => return (fabric, .error error)
    | (fabric, .ok ()) =>
      return ({ fabric with buses := fabric.buses.set bus (.server server true) }, .ok ())

def writeServer (fabric : Fabric) (server : Nat) (channel : String) (message : Bytes) :
    Logged (Fabric × Except Error Unit) :=
  match fabric.ask server .publish (·.write channel message) with
  | (fabric, .error error) => pure (fabric, .error error)
  | (fabric, .ok receivers) => do
    .note (.redisWritten channel receivers)
    return (fabric, .ok ())

/-- Writes a message to a channel. -/
def write (fabric : Fabric) (bus : Nat) (channel : String) (message : Bytes) :
    Logged (Fabric × Except Error Unit) :=
  match fabric.bus bus with
  | .memory hub | .subscribeFailing hub => do
    return (← fabric.writeHub hub channel message, .ok ())
  | .unavailable | .writeFailing _ => pure (fabric, .error (publishError channel))
  | .unreachable address => do
    .note .redisConnecting
    return (fabric, .error (.because .connection address.refusal))
  | .server server connected => do
    let (fabric, opened) ← fabric.connect bus server connected
    match opened with
    | .error error => return (fabric, .error error)
    | .ok () => fabric.writeServer server channel message

def subscribeHub (fabric : Fabric) (hub : Nat) (channel : String) :
    Fabric × Except Error Stream :=
  match fabric.hubs[hub]? with
  | none => (fabric, .error (subscribeError channel))
  | some memory =>
    let (memory, index, reader) := memory.subscribe channel
    ({ fabric with hubs := fabric.hubs.set hub memory }, .ok (.hub hub index reader))

/-- Every subscription has a connection of its own. -/
def subscribeServer (fabric : Fabric) (server : Nat) (channel : String) :
    Logged (Fabric × Except Error Stream) :=
  match fabric.ask server .connection (·.connect) with
  | (fabric, .error error) => pure (fabric, .error error)
  | (fabric, .ok ()) =>
    match fabric.ask server .subscribe (·.subscribe channel) with
    | (fabric, .error error) => pure (fabric, .error error)
    | (fabric, .ok subscriber) => do
      .note (.redisSubscribed channel)
      return (fabric, .ok (.server server subscriber))

/-- Opens a stream of what is written to a channel from now on. -/
def subscribe (fabric : Fabric) (bus : Nat) (channel : String) :
    Logged (Fabric × Except Error Stream) :=
  match fabric.bus bus with
  | .memory hub | .writeFailing hub => pure (fabric.subscribeHub hub channel)
  | .unavailable | .subscribeFailing _ => pure (fabric, .error (subscribeError channel))
  | .unreachable address => pure (fabric, .error (.because .connection address.refusal))
  | .server server _ => fabric.subscribeServer server channel

/-- How many messages a stream has not come to. -/
def unread (fabric : Fabric) : Stream → Nat
  | .hub hub channel reader =>
    (((fabric.hubs[hub]?).bind (·.channels[channel]?)).map (·.unread reader)).getD 0
  | .server server subscriber => ((fabric.servers[server]?).map (·.unread subscriber)).getD 0

/-- The name of the channel that a stream reads from a hub. -/
def channelName (fabric : Fabric) (hub channel : Nat) : String :=
  (((fabric.hubs[hub]?).bind (·.channels[channel]?)).map (·.name)).getD ""

/-- Takes the next item from a stream. -/
def next (fabric : Fabric) : Stream → Logged (Fabric × Next)
  | .hub hub channel reader =>
    match fabric.hubs[hub]? with
    | none => pure (fabric, .ended)
    | some memory => do
      let (memory, next) := memory.next channel reader
      if let .item (.lagged lost) := next then
        .note (.readerLagged (fabric.channelName hub channel) lost)
      return ({ fabric with hubs := fabric.hubs.set hub memory }, next)
  | .server server subscriber =>
    match fabric.servers[server]? with
    | none => pure (fabric, .ended)
    | some host =>
      let (host, next) := host.next subscriber
      pure ({ fabric with servers := fabric.servers.set server host }, next)

/-- Gives a stream up. -/
def drop (fabric : Fabric) : Stream → Fabric
  | .hub hub channel reader =>
    { fabric with hubs := fabric.hubs.modify hub (·.drop channel reader) }
  | .server server subscriber =>
    { fabric with servers := fabric.servers.modify server (·.drop subscriber) }

/-- Ends every channel of the hub behind a bus. -/
def shutdown (fabric : Fabric) (bus : Nat) : Fabric :=
  match fabric.hub? bus with
  | none => fabric
  | some hub => { fabric with hubs := fabric.hubs.modify hub (·.shutdown) }

/-- Ends the server behind a bus. -/
def stop (fabric : Fabric) (bus : Nat) : Fabric :=
  match fabric.bus bus with
  | .server server _ => { fabric with servers := fabric.servers.modify server (·.stop) }
  | _ => fabric

end Fabric

end Fanout
