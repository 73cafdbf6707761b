import Fanout.Proofs.Network.Act

/-! What does not matter to a broker. A mask hides such things: its place on the buses, say, or what its
counters began with. Whatever is done to a broker is then done to what is left of it in the same way. -/

namespace Fanout

namespace Stats

/-- The counters behind so many messages more that could not be decoded. -/
def malformed (n : Nat) (s : Stats) : Stats :=
  { s with
    inboundReceived := s.inboundReceived + .ofNat n
    decodeFailures := s.decodeFailures + .ofNat n }

theorem malformed_zero (s : Stats) : s.malformed 0 = s := by
  have nothing : UInt64.ofNat 0 = 0 := rfl
  simp [malformed, nothing]

theorem malformed_malformed (m n : Nat) (s : Stats) :
    (s.malformed m).malformed n = s.malformed (m + n) := by
  simp only [malformed, UInt64.ofNat_add, UInt64.add_assoc]

/-- The change adds to the counters, whatever they began with. -/
def Adds (f : Stats → Stats) : Prop := ∀ n s, f (s.malformed n) = (f s).malformed n

theorem add_one_swap (a b : UInt64) : a + b + 1 = a + 1 + b := by
  rw [UInt64.add_assoc, UInt64.add_comm b 1, ← UInt64.add_assoc]

theorem adds_received : Adds fun s => { s with inboundReceived := s.inboundReceived + 1 } := by
  intro n s
  simp only [malformed, add_one_swap]

theorem adds_malformed : Adds fun s =>
    { s with
      inboundReceived := s.inboundReceived + 1
      decodeFailures := s.decodeFailures + 1 } := by
  intro n s
  simp only [malformed, add_one_swap]

end Stats

namespace Broker

/-- The mask leaves what decides what is done to a broker, and the parts of it are done to what is left. -/
structure Masks (mask : Broker → Broker) : Prop where
  closed : ∀ broker, (mask broker).closed = broker.closed
  listening : ∀ broker, (mask broker).listening = broker.listening
  tally : ∀ (broker : Broker) {f : Stats → Stats}, Stats.Adds f →
    mask (broker.tally f) = (mask broker).tally f
  broadcast : ∀ (broker : Broker) (message : Message) (scope : String),
    mask (broker.broadcast message scope).value.1
      = ((mask broker).broadcast message scope).value.1
  runs : ∀ (broker : Broker) (stream : Stream), mask { broker with inbound := .running stream }
    = { mask broker with inbound := .running (.hub 0 0 0) }
  ends : ∀ broker : Broker, mask { broker with inbound := .ended, listening := false }
    = { mask broker with inbound := .ended, listening := false }

namespace Masks

variable {mask : Broker → Broker} (masks : Masks mask)
include masks

theorem take (broker : Broker) (item : BusItem) :
    mask (broker.take item).value = ((mask broker).take item).value := by
  cases item with
  | lagged lost =>
    have adds : Stats.Adds fun s => { s with busLagged := s.busLagged + .ofNat lost } :=
      fun _ _ => rfl
    exact masks.tally broker adds
  | message message =>
    cases decoded : Envelope.decode message with
    | error fault =>
      rw [take_malformed broker decoded, take_malformed (mask broker) decoded]
      exact masks.tally broker Stats.adds_malformed
    | ok envelope =>
      rw [take_message broker decoded, take_message (mask broker) decoded, masks.broadcast,
        masks.tally broker Stats.adds_received]

theorem found (fabric fabric' : Fabric) (stream : Stream) (broker : Broker) (next : Next) :
    mask (broker.found fabric stream next).2
      = ((mask broker).found fabric' (.hub 0 0 0) next).2 := by
  cases next with
  | pending => exact masks.runs broker stream
  | ended => exact masks.ends broker
  | item item =>
    have taken := masks.take { broker with inbound := .running stream } item
    rw [masks.runs] at taken
    exact taken

/-- Of the buses it matters alone whether they take what is published. -/
theorem published {fabric fabric' : Fabric} {broker : Broker}
    (same : ∀ envelope, (mask broker).writes fabric' envelope = broker.writes fabric envelope)
    (event : Event Payload) : mask (broker.published fabric event).2
      = ((mask broker).published fabric' event).2 := by
  cases closed : broker.closed with
  | true =>
    rw [published_closed closed, published_closed ((masks.closed broker).trans closed)]
  | false =>
    have running := (masks.closed broker).trans closed
    cases sealed : Envelope.sealEvent event with
    | error fault =>
      have adds : Stats.Adds fun s =>
          { s with serializationFailures := s.serializationFailures + 1 } := fun _ _ => rfl
      rw [published_error closed sealed, published_error running sealed]
      exact masks.tally broker adds
    | ok envelope =>
      rw [published_sealed closed sealed, published_sealed running sealed, same,
        masks.listening]
      cases broker.writes fabric envelope with
      | false =>
        have adds : Stats.Adds fun s => { s with busFallbacks := s.busFallbacks + 1 } :=
          fun _ _ => rfl
        rw [← masks.tally broker adds]
        exact masks.broadcast ..
      | true =>
        cases broker.listening with
        | true => rfl
        | false => exact masks.broadcast ..

end Masks

end Broker

end Fanout
