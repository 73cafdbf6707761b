import Fanout.Text.Utf8

/-!
A channel in memory: a log of messages of which the last ones are kept, and readers that each go
through it at their own pace. A reader that falls behind what is kept learns how many messages it
lost and goes on with the oldest one kept.
-/

namespace Fanout

/-- What a reader of a bus finds. -/
inductive BusItem where
  | message (message : Bytes)
  /-- This many messages were lost. -/
  | lagged (lost : Nat)
  deriving DecidableEq, Repr

inductive Next where
  | item (item : BusItem)
  | pending
  | ended
  deriving DecidableEq, Repr

structure Channel where
  name : String
  /-- How many messages are kept. -/
  capacity : Nat
  /-- How many messages were written. -/
  written : Nat
  /-- The last messages, oldest first. -/
  kept : List Bytes
  /-- How many messages each reader has behind it; nothing for a reader that is gone. -/
  readers : List (Option Nat)
  isOpen : Bool
  deriving DecidableEq, Repr

namespace Channel

/-- A channel keeps a power of two of messages, at least as many as are asked for. -/
def new (name : String) (capacity : Nat) : Channel :=
  ⟨name, (max capacity 1).nextPowerOfTwo, 0, [], [], true⟩

/-- How many readers there are. -/
def receivers (channel : Channel) : Nat := channel.readers.countP (·.isSome)

/-- Writes a message, which is lost where there is no reader. -/
def write (channel : Channel) (message : Bytes) : Channel :=
  if channel.receivers = 0 then channel
  else
    let all := channel.kept ++ [message]
    { channel with
      written := channel.written + 1
      kept := all.drop (all.length - channel.capacity) }

/-- A new reader, which sees what is written from now on. -/
def subscribe (channel : Channel) : Channel × Nat :=
  ({ channel with readers := channel.readers ++ [some channel.written] }, channel.readers.length)

def position? (channel : Channel) (reader : Nat) : Option Nat := (channel.readers[reader]?).join

/-- How many messages were written that a reader has not come to. -/
def unread (channel : Channel) (reader : Nat) : Nat :=
  match channel.position? reader with
  | some position => channel.written - position
  | none => 0

def setPosition (channel : Channel) (reader : Nat) (position : Option Nat) : Channel :=
  { channel with readers := channel.readers.set reader position }

/-- What a reader finds next. -/
def next (channel : Channel) (reader : Nat) : Channel × Next :=
  match channel.position? reader with
  | none => (channel, .ended)
  | some position =>
    let unread := channel.written - position
    if channel.kept.length < unread then
      let oldest := channel.written - channel.kept.length
      (channel.setPosition reader (some oldest), .item (.lagged (oldest - position)))
    else
      match channel.kept[channel.kept.length - unread]? with
      | some message => (channel.setPosition reader (some (position + 1)), .item (.message message))
      | none => (channel, if channel.isOpen then .pending else .ended)

def drop (channel : Channel) (reader : Nat) : Channel := channel.setPosition reader none

/-- Ends the channel: its readers come to an end behind the messages that are kept. -/
def close (channel : Channel) : Channel := { channel with isOpen := false }

end Channel

end Fanout
