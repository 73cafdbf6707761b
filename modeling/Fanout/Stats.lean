/-!
The delivery counters of a broker. They have 64 bits and start again from zero after their greatest
value.
-/

namespace Fanout

structure Stats where
  /-- Messages put into a client's queue. -/
  delivered : UInt64
  /-- Messages discarded because a client's queue was full. -/
  droppedFull : UInt64
  /-- Events that could not be serialized. -/
  serializationFailures : UInt64
  /-- Events delivered to local clients alone because the bus took no write. -/
  busFallbacks : UInt64
  /-- Messages read off the bus. -/
  inboundReceived : UInt64
  /-- Messages read off the bus that were no event. -/
  decodeFailures : UInt64
  /-- Messages lost because the reader fell behind the bus. -/
  busLagged : UInt64
  deriving DecidableEq, Repr

def Stats.zero : Stats := ⟨0, 0, 0, 0, 0, 0, 0⟩

def Stats.toList (s : Stats) : List UInt64 :=
  [s.delivered, s.droppedFull, s.serializationFailures, s.busFallbacks, s.inboundReceived,
    s.decodeFailures, s.busLagged]

end Fanout
