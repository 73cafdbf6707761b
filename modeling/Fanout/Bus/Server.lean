import Fanout.Bus.Channel

/-!
A pub/sub server. It is a program of its own, so what it does is left open here: a `Behavior` answers
each request by all the requests that came before it.
-/

namespace Fanout

namespace Server

/-- What comes to a server. -/
inductive Request where
  | connect
  | write (channel : String) (message : Bytes)
  /-- A subscriber comes. They are numbered in this order. -/
  | subscribe (channel : String)
  /-- A subscriber looks for its next message. -/
  | next (subscriber : Nat)
  | drop (subscriber : Nat)
  /-- The server is shut off. -/
  | stop
  deriving DecidableEq, Repr

namespace Request

/-- How many subscribers came. -/
def subscribers : List Request → Nat
  | [] => 0
  | .subscribe _ :: past => subscribers past + 1
  | _ :: past => subscribers past

/-- Whether the server was shut off. -/
def stopped (past : List Request) : Bool := past.contains .stop

/-- The channel of a subscriber, and the messages that were written there since it came and before the
server was shut off, but for those that it has looked for already. Requests are listed from the last one
back. -/
def awaited? (subscriber : Nat) : List Request → Option (String × List Bytes)
  | [] => none
  | .subscribe channel :: past =>
    if subscriber = subscribers past then some (channel, []) else awaited? subscriber past
  | .write channel message :: past =>
    (awaited? subscriber past).map fun (name, queue) =>
      (name, if !stopped past && name = channel then queue ++ [message] else queue)
  | .next other :: past =>
    if other = subscriber then (awaited? subscriber past).map fun (name, queue) => (name, queue.tail)
    else awaited? subscriber past
  | .drop other :: past => if other = subscriber then none else awaited? subscriber past
  | .connect :: past | .stop :: past => awaited? subscriber past

/-- How many subscribers a channel has. -/
def receivers (past : List Request) (channel : String) : Nat :=
  (List.range (subscribers past)).countP fun subscriber =>
    (awaited? subscriber past).any (·.1 == channel)

end Request

/-- What a subscriber finds. -/
inductive Arrival where
  | nothing
  | message (bytes : Bytes)
  /-- The connection is gone. -/
  | gone
  deriving DecidableEq, Repr

/-- Every message is taken as it is. -/
def Arrival.next : Arrival → Next
  | .nothing => .pending
  | .message bytes => .item (.message bytes)
  | .gone => .ended

/-- How a server behaves after these requests, of which the last one comes first. What it refuses, it
refuses with a text. -/
structure Behavior where
  connect : List Request → Except String Unit
  /-- Tells to how many subscribers the message went. -/
  write : List Request → String → Bytes → Except String Nat
  subscribe : List Request → String → Except String Unit
  next : List Request → Nat → Arrival

/-- What is answered where no server listens. -/
def refusal : String := "Connection refused (os error 111)"

/-- Passes every message on to the subscribers of its channel until it is shut off. What waits then is
still found. -/
def Behavior.relay : Behavior where
  connect past := if Request.stopped past then .error refusal else .ok ()
  write past channel _ :=
    if Request.stopped past then .error "Broken pipe (os error 32)"
    else .ok (Request.receivers past channel)
  subscribe past _ := if Request.stopped past then .error refusal else .ok ()
  next past subscriber :=
    match Request.awaited? subscriber past with
    | some (_, bytes :: _) => .message bytes
    | some (_, []) => if Request.stopped past then .gone else .nothing
    | none => .gone

end Server

structure Server where
  behavior : Server.Behavior
  /-- The requests that came so far, the last one first. -/
  past : List Server.Request

namespace Server

def new (behavior : Behavior) : Server := ⟨behavior, []⟩

def hear (server : Server) (request : Request) : Server :=
  { server with past := request :: server.past }

def connect (server : Server) : Server × Except String Unit :=
  (server.hear .connect, server.behavior.connect server.past)

def write (server : Server) (channel : String) (message : Bytes) : Server × Except String Nat :=
  (server.hear (.write channel message), server.behavior.write server.past channel message)

def subscribe (server : Server) (channel : String) : Server × Except String Nat :=
  (server.hear (.subscribe channel),
    (server.behavior.subscribe server.past channel).map fun () => Request.subscribers server.past)

/-- How many messages a subscriber has to come to where the server passes all of them on. -/
def unread (server : Server) (subscriber : Nat) : Nat :=
  (Request.awaited? subscriber server.past).elim 0 (·.2.length)

def next (server : Server) (subscriber : Nat) : Server × Next :=
  (server.hear (.next subscriber), (server.behavior.next server.past subscriber).next)

def drop (server : Server) (subscriber : Nat) : Server := server.hear (.drop subscriber)

def stop (server : Server) : Server := server.hear .stop

end Server

end Fanout
