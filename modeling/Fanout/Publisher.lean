import Fanout.Network

/-!
Publishers hand every event to their handlers, one after the other in the order of registration. A
publisher is a value: adding a handler makes a new one and leaves the old one as it is.
-/

namespace Fanout

structure Publisher (Handler : Type) where
  handlers : List Handler
  deriving DecidableEq, Repr

namespace Publisher

variable {Handler S : Type}

def empty : Publisher Handler := ⟨[]⟩

def withHandler (publisher : Publisher Handler) (handler : Handler) : Publisher Handler :=
  ⟨publisher.handlers ++ [handler]⟩

def handlerCount (publisher : Publisher Handler) : Nat := publisher.handlers.length

/-- Lets every handler act on an event. -/
def publish (act : Handler → Event Json.Value → S → Logged S) (publisher : Publisher Handler)
    (event : Event Json.Value) (state : S) : Logged S :=
  publisher.handlers.foldlM (fun state handler => act handler event state) state

end Publisher

/-- The handler that passes events on to a broker. -/
def Network.handle (broker : Nat) (event : Event Json.Value) (network : Network) :
    Logged Network := do
  .note (.handling event.type event.scope)
  network.publish broker (event.map .value)

end Fanout
