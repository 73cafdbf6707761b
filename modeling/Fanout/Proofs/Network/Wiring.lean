import Fanout.Proofs.Broker
import Fanout.Proofs.Bus.Hub

/-! Brokers on a hub: each has at most one reader, of a channel of its own name, and its flags tell
whether it has one. A broker that stays where it is keeps what its loop has still to come to. -/

namespace Fanout.Broker

/-- The numbers of the messages that the loop of a broker has still to come to. -/
def pending (hub : Hub) (stored : Nat → List Nat) (broker : Broker) : List Nat :=
  match broker.inbound.stream? with
  | some (.hub _ k reader) => ((hub.position? k reader).map (stored k).drop).getD []
  | _ => []

/-- The stream of a broker is a reader of a channel of its name, and the flags agree with it. -/
structure Wired (hub : Hub) (broker : Broker) : Prop where
  bus : broker.bus = 0
  stream : ∀ stream, broker.inbound.stream? = some stream →
    ∃ k reader position channel, stream = .hub 0 k reader ∧ hub.channels[k]? = some channel ∧
      channel.name = broker.channel ∧ hub.position? k reader = some position
  listening : broker.listening = broker.inbound.stream?.isSome
  closed : broker.closed = true → broker.inbound.stream? = none

/-- What is written to the channel of the broker reaches its loop. -/
def Attached (hub : Hub) (broker : Broker) : Prop :=
  ∃ k reader channel, broker.inbound.stream? = some (.hub 0 k reader) ∧
    hub.channels[k]? = some channel ∧ channel.isOpen = true

variable {hub : Hub} {brokers : List Broker}

/-! ## What is still to come -/

theorem pending_of_stream {stored : Nat → List Nat} {broker : Broker} {k reader position : Nat}
    (stream : broker.inbound.stream? = some (.hub 0 k reader))
    (at? : hub.position? k reader = some position) :
    broker.pending hub stored = (stored k).drop position := by
  simp only [Broker.pending, stream, at?, Option.map_some, Option.getD_some]

theorem pending_of_none {stored : Nat → List Nat} {broker : Broker}
    (none : broker.inbound.stream? = none) : broker.pending hub stored = [] := by
  simp only [Broker.pending, none]

theorem pending_congr {stored : Nat → List Nat} {broker broker' : Broker} {after : Hub}
    (wired : broker.Wired hub) (stays : broker.Stays broker')
    (same : ∀ k reader, broker.inbound.stream? = some (.hub 0 k reader) →
      after.position? k reader = hub.position? k reader) :
    broker'.pending after stored = broker.pending hub stored := by
  cases stream : broker.inbound.stream? with
  | none => rw [pending_of_none stream, pending_of_none (stays.stream.trans stream)]
  | some found =>
    obtain ⟨k, reader, position, channel, rfl, _, _, at?⟩ := wired.stream found stream
    rw [pending_of_stream stream at?,
      pending_of_stream (stays.stream.trans stream) ((same k reader stream).trans at?)]

/-- A broker that stays where it is remains wired as long as its reader is kept. -/
theorem Wired.stays {broker broker' : Broker} {after : Hub} (wired : broker.Wired hub)
    (stays : broker.Stays broker')
    (kept : ∀ k reader position channel, broker.inbound.stream? = some (.hub 0 k reader) →
      hub.channels[k]? = some channel → hub.position? k reader = some position →
      ∃ position' channel', after.channels[k]? = some channel' ∧ channel'.name = channel.name ∧
        after.position? k reader = some position') : broker'.Wired after := by
  constructor
  case bus => exact stays.bus.trans wired.bus
  case stream =>
    intro stream found
    rw [stays.stream] at found
    obtain ⟨k, reader, position, channel, rfl, here, named, at?⟩ := wired.stream stream found
    obtain ⟨position', channel', here', same, at?'⟩ := kept k reader position channel found here at?
    exact ⟨k, reader, position', channel', rfl, here', same.trans (named.trans stays.channel.symm),
      at?'⟩
  case listening => rw [stays.listening, stays.stream, wired.listening]
  case closed =>
    intro closed
    rw [stays.stream]
    exact wired.closed (stays.closed ▸ closed)

theorem Wired.moves {broker broker' : Broker} {after : Hub} (wired : broker.Wired hub)
    (stays : broker.Stays broker') (moves : hub.Moves after)
    (kept : ∀ k reader position, broker.inbound.stream? = some (.hub 0 k reader) →
      hub.position? k reader = some position →
      ∃ position', after.position? k reader = some position') :
    broker'.Wired after := by
  apply wired.stays stays
  intro k reader position channel stream here at?
  obtain ⟨channel', here', named, _⟩ := moves.after here
  obtain ⟨position', at?'⟩ := kept k reader position stream at?
  exact ⟨position', channel', here', named, at?'⟩

theorem Wired.channel {broker : Broker} (wired : broker.Wired hub) (name : String) :
    broker.Wired (hub.channel name).1 := by
  apply wired.stays (.refl broker)
  intro k reader position channel _ here at?
  exact ⟨position, channel, Hub.getElem?_channel_of_some name here, rfl,
    (hub.position?_channel ..).trans at?⟩

/-! ## What a broker is attached to -/

theorem Attached.stays {broker broker' : Broker} {after : Hub} (attached : broker.Attached hub)
    (stays : broker.Stays broker')
    (open' : ∀ k reader channel, broker.inbound.stream? = some (.hub 0 k reader) →
      hub.channels[k]? = some channel → channel.isOpen = true →
      ∃ channel', after.channels[k]? = some channel' ∧ channel'.isOpen = true) :
    broker'.Attached after := by
  obtain ⟨k, reader, channel, stream, here, isOpen⟩ := attached
  obtain ⟨channel', here', isOpen'⟩ := open' k reader channel stream here isOpen
  exact ⟨k, reader, channel', stays.stream.trans stream, here', isOpen'⟩

theorem Attached.moves {broker broker' : Broker} {after : Hub} (attached : broker.Attached hub)
    (stays : broker.Stays broker') (moves : hub.Moves after) : broker'.Attached after := by
  apply attached.stays stays
  intro k reader channel _ here isOpen
  obtain ⟨channel', here', _, same⟩ := moves.after here
  exact ⟨channel', here', same.trans isOpen⟩

theorem Attached.channel {broker : Broker} (attached : broker.Attached hub) (name : String) :
    broker.Attached (hub.channel name).1 := by
  apply attached.stays (.refl broker)
  intro k reader channel _ here isOpen
  exact ⟨channel, Hub.getElem?_channel_of_some name here, isOpen⟩

theorem not_attached_of_none {broker : Broker} (none : broker.inbound.stream? = none) :
    ¬ broker.Attached hub := by
  rintro ⟨k, reader, channel, stream, _⟩
  rw [none] at stream
  contradiction

/-! ## All brokers -/

/-- No two brokers read the same stream. -/
def Alone (brokers : List Broker) : Prop :=
  ∀ (i j : Nat) (broker other : Broker) (stream : Stream), brokers[i]? = some broker →
    brokers[j]? = some other → broker.inbound.stream? = some stream →
    other.inbound.stream? = some stream → i = j

/-- Brokers that stay where they are, each in its place. -/
structure AllStay (brokers brokers' : List Broker) : Prop where
  length : brokers'.length = brokers.length
  stays : ∀ (index : Nat) (broker broker' : Broker), brokers[index]? = some broker →
    brokers'[index]? = some broker' → broker.Stays broker'

theorem AllStay.before {brokers' : List Broker} (all : AllStay brokers brokers') {index : Nat}
    {broker' : Broker} (here : brokers'[index]? = some broker') :
    ∃ broker, brokers[index]? = some broker ∧ broker.Stays broker' := by
  obtain ⟨broker, before⟩ := exists_getElem? (Nat.le_of_eq all.length) here
  exact ⟨broker, before, all.stays index broker broker' before here⟩

theorem allStay_set {index : Nat} {broker broker' : Broker} (here : brokers[index]? = some broker)
    (stays : broker.Stays broker') : AllStay brokers (brokers.set index broker') := by
  constructor
  case length => exact List.length_set
  case stays =>
    intro j b d first second
    rcases getElem?_set_cases second with ⟨rfl, rfl⟩ | ⟨_, second⟩
    · cases here.symm.trans first
      exact stays
    · cases first.symm.trans second
      exact .refl b

theorem allStay_refl (brokers : List Broker) : AllStay brokers brokers := by
  refine ⟨rfl, ?_⟩
  intro index b d first second
  cases first.symm.trans second
  exact .refl b

theorem AllStay.alone {brokers' : List Broker} (all : AllStay brokers brokers')
    (alone : Alone brokers) : Alone brokers' := by
  intro i j broker other stream first second found found'
  obtain ⟨b, before, stays⟩ := all.before first
  obtain ⟨d, before', stays'⟩ := all.before second
  exact alone i j b d stream before before' (stays.stream ▸ found) (stays'.stream ▸ found')

/-- A broker may leave its stream. -/
theorem Alone.set {index : Nat} {broker broker' : Broker} (alone : Alone brokers)
    (here : brokers[index]? = some broker)
    (reads : ∀ stream, broker'.inbound.stream? = some stream →
      broker.inbound.stream? = some stream) : Alone (brokers.set index broker') := by
  intro i j b d stream first second found found'
  rcases getElem?_set_cases first with ⟨rfl, rfl⟩ | ⟨_, before⟩
  · rcases getElem?_set_cases second with ⟨rfl, rfl⟩ | ⟨_, before'⟩
    · rfl
    · exact alone i j broker d stream here before' (reads stream found) found'
  · rcases getElem?_set_cases second with ⟨rfl, rfl⟩ | ⟨_, before'⟩
    · exact alone i _ b broker stream before here found (reads stream found')
    · exact alone i j b d stream before before' found found'

/-- A new broker comes with a stream of its own. -/
theorem Alone.snoc {new : Broker} (alone : Alone brokers)
    (fresh : ∀ (j : Nat) (b : Broker) (stream : Stream), brokers[j]? = some b →
      new.inbound.stream? = some stream → b.inbound.stream? ≠ some stream) :
    Alone (brokers ++ [new]) := by
  intro i j b d stream first second found found'
  rcases getElem?_snoc_cases first with before | ⟨atEnd, rfl⟩
  · rcases getElem?_snoc_cases second with before' | ⟨_, rfl⟩
    · exact alone i j b d stream before before' found found'
    · exact absurd found (fresh i b stream before found')
  · rcases getElem?_snoc_cases second with before' | ⟨atEnd', _⟩
    · exact absurd found' (fresh j d stream before' found)
    · rw [atEnd, atEnd']

end Fanout.Broker
