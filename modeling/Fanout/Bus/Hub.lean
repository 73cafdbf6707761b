import Fanout.Bus.Channel

/-!
A bus in memory: channels by name, each made when it is first used. After a shutdown the names are
free for new channels, while readers of the old ones read on to their end.
-/

namespace Fanout

structure Hub where
  /-- How many messages a reader may fall behind by. -/
  capacity : Nat
  /-- All channels that there ever were. -/
  channels : List Channel
  deriving DecidableEq, Repr

/-- How many messages a reader may fall behind by unless something else is asked for. -/
def defaultHubCapacity : Nat := 1024

namespace Hub

def new (capacity : Nat) : Hub := ⟨capacity, []⟩

/-- The channel that has this name now. -/
def find? (hub : Hub) (name : String) : Option Nat :=
  hub.channels.findIdx? fun channel => channel.isOpen && channel.name == name

/-- The channel of this name, which is made if there is none. -/
def channel (hub : Hub) (name : String) : Hub × Nat :=
  match hub.find? name with
  | some index => (hub, index)
  | none =>
    ({ hub with channels := hub.channels ++ [.new name hub.capacity] }, hub.channels.length)

/-- Writes to a channel and tells how many readers it has. -/
def write (hub : Hub) (name : String) (message : Bytes) : Hub × Nat :=
  let (hub, index) := hub.channel name
  ({ hub with channels := hub.channels.modify index (·.write message) },
    ((hub.channels[index]?).map Channel.receivers).getD 0)

/-- Opens a reader: the number of its channel and its own number there. -/
def subscribe (hub : Hub) (name : String) : Hub × Nat × Nat :=
  let (hub, index) := hub.channel name
  match hub.channels[index]? with
  | none => (hub, index, 0)
  | some channel =>
    let (channel, reader) := channel.subscribe
    ({ hub with channels := hub.channels.set index channel }, index, reader)

def next (hub : Hub) (index reader : Nat) : Hub × Next :=
  match hub.channels[index]? with
  | none => (hub, .ended)
  | some channel =>
    let (channel, next) := channel.next reader
    ({ hub with channels := hub.channels.set index channel }, next)

def drop (hub : Hub) (index reader : Nat) : Hub :=
  { hub with channels := hub.channels.modify index (·.drop reader) }

def shutdown (hub : Hub) : Hub := { hub with channels := hub.channels.map (·.close) }

end Hub

end Fanout
