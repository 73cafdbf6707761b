import Fanout.Error

/-!
What the service reports about its work: notices as data, each with a level and a text, and values
that come with the notices made on the way to them.
-/

namespace Fanout

inductive Level where
  | error
  | warn
  | info
  | debug
  | trace
  deriving DecidableEq, Repr

def Level.text : Level → String
  | .error => "ERROR"
  | .warn => "WARN"
  | .info => "INFO"
  | .debug => "DEBUG"
  | .trace => "TRACE"

/-- A client by the registry that it subscribed to and its place among the clients of that one. -/
structure ClientId where
  registry : Nat
  serial : Nat
  deriving DecidableEq, Repr

def ClientId.text (id : ClientId) : String := s!"{id.registry}-{id.serial}"

inductive Notice where
  | registering (client : ClientId) (filter : String)
  | unregistered (client : ClientId)
  | queueFull (client : ClientId) (capacity : Nat) (scope : String)
  | receiverGone (client : ClientId)
  | queuesClosed (count : Nat)
  | subscribedAfterClose
  | publishedAfterClose (type scope : String)
  | brokerStarted (channel : String) (capacity : Nat)
  | brokerClosed
  | localOnly (channel : String) (error : Error)
  | loopStarted (channel : String)
  | loopCancelled (channel : String)
  | loopLagged (channel : String) (lost : Nat)
  | loopEnded (channel : String)
  | delivered (scope : String) (clients : Nat)
  | malformed (size : Nat) (channel : String) (error : Error)
  | notSerialized (type scope : String) (error : Error)
  | deliveringLocally (type : String)
  | writeFailed (type channel : String) (error : Error)
  | written (channel : String) (receivers : Nat)
  | readerLagged (channel : String) (lost : Nat)
  | redisConfigured (address : String)
  | redisSubscribed (channel : String)
  | redisConnecting
  | redisWritten (channel : String) (receivers : Nat)
  | handling (type scope : String)
  | streamOpening (scope : String)
  | streamEnded (scope : String)
  | notReceiving
  | starting (environment : String)
  | noBus
  | busNotConfigured (reason : String)
  | serverStarting (address : String)
  | originIgnored (origin : String)
  | signalReceived
  | serverFailed (reason : String)
  | shutDown

namespace Notice

def level : Notice → Level
  | .localOnly .. | .loopEnded .. | .notSerialized .. | .busNotConfigured .. | .serverFailed .. =>
    .error
  | .queueFull .. | .subscribedAfterClose | .loopLagged .. | .malformed .. | .writeFailed ..
  | .notReceiving | .noBus | .originIgnored .. => .warn
  | .queuesClosed .. | .brokerStarted .. | .brokerClosed | .loopStarted .. | .loopCancelled ..
  | .redisConfigured .. | .redisSubscribed .. | .starting .. | .serverStarting ..
  | .signalReceived | .shutDown => .info
  | .registering .. | .unregistered .. | .receiverGone .. | .publishedAfterClose ..
  | .deliveringLocally .. | .redisConnecting | .handling .. | .streamOpening ..
  | .streamEnded .. => .debug
  | .delivered .. | .written .. | .readerLagged .. | .redisWritten .. => .trace

/-- The text, in which `name` names the clients. -/
def text (name : ClientId → String) : Notice → String
  | .registering client filter =>
    s!"Registering client {name client} with scope filter '{filter}'"
  | .unregistered client => s!"Unregistered client {name client}"
  | .queueFull client capacity scope =>
    s!"Client {name client} queue is full (capacity {capacity}); "
      ++ s!"dropping message for scope '{scope}'"
  | .receiverGone client =>
    s!"Client {name client} stopped receiving; it will be removed on unsubscribe"
  | .queuesClosed count => s!"Closed {count} client queue(s)"
  | .subscribedAfterClose => "Subscribe called on a closed broker"
  | .publishedAfterClose type scope =>
    s!"Broker is closed, discarding '{type}' event for scope '{scope}'"
  | .brokerStarted channel capacity =>
    s!"Broker started on channel '{channel}' (client capacity {capacity})"
  | .brokerClosed => "Broker closed"
  | .localOnly channel error =>
    s!"Could not subscribe to bus channel '{channel}', running in local-only mode: {error.text}"
  | .loopStarted channel => s!"Inbound loop started on bus channel '{channel}'"
  | .loopCancelled channel => s!"Inbound loop on '{channel}' cancelled"
  | .loopLagged channel lost =>
    s!"Inbound loop on '{channel}' fell behind the bus, {lost} message(s) lost"
  | .loopEnded channel =>
    s!"Bus subscription on '{channel}' ended; cross-process delivery is stopped until restart"
  | .delivered scope clients =>
    s!"Delivered inbound message for scope '{scope}' to {clients} client(s)"
  | .malformed size channel error =>
    s!"Skipping malformed message ({size} bytes) on '{channel}': {error.text}"
  | .notSerialized type scope error =>
    s!"Failed to serialize '{type}' event for scope '{scope}', dropping it: {error.text}"
  | .deliveringLocally type => s!"Inbound loop is down, delivering '{type}' event locally"
  | .writeFailed type channel error =>
    s!"Bus publish of '{type}' event to '{channel}' failed, delivering to local subscribers only: "
      ++ error.text
  | .written channel receivers => s!"Published to '{channel}' ({receivers} receiver(s))"
  | .readerLagged channel lost => s!"Subscriber on '{channel}' lagged by {lost} message(s)"
  | .redisConfigured address => s!"Redis bus configured for {address}"
  | .redisSubscribed channel => s!"Subscribed to Redis channel '{channel}'"
  | .redisConnecting => "Opening Redis publish connection"
  | .redisWritten channel receivers =>
    s!"Published to Redis channel '{channel}' ({receivers} receiver(s))"
  | .handling type scope => s!"Handling '{type}' event for scope '{scope}'"
  | .streamOpening scope => s!"Establishing SSE connection for scope '{scope}'"
  | .streamEnded scope => s!"Event queue for scope '{scope}' closed, ending SSE stream"
  | .notReceiving => "Health check: broker is not receiving from the event bus"
  | .starting environment => s!"Starting shiftboard real-time service [{environment}]..."
  | .noBus => "No REDIS_URL configured, events are only delivered within this process"
  | .busNotConfigured reason => s!"Failed to configure the event bus: {reason}"
  | .serverStarting address =>
    s!"Server starting... listening for connections on http://{address}"
  | .originIgnored origin =>
    s!"Ignoring invalid CORS origin '{origin}': failed to parse header value"
  | .signalReceived => "Shutdown signal received, closing event broker"
  | .serverFailed reason => s!"Server error: {reason}"
  | .shutDown => "Shut down cleanly"

end Notice

/-- A value and the notices made on the way to it, in order. -/
structure Logged (α : Type) where
  value : α
  notices : List Notice

namespace Logged

instance : Monad Logged where
  pure a := ⟨a, []⟩
  bind x f := ⟨(f x.value).value, x.notices ++ (f x.value).notices⟩

def note (notice : Notice) : Logged Unit := ⟨(), [notice]⟩

@[simp] theorem value_pure {α : Type} (a : α) : (pure a : Logged α).value = a := rfl

@[simp] theorem value_bind {α β : Type} (x : Logged α) (f : α → Logged β) :
    (x >>= f).value = (f x.value).value := rfl

end Logged

end Fanout
