import Fanout.Bus.Fabric
import Fanout.Proofs.Bus.Reader

/-! Readers on the hubs of a fabric: how much each of them has still to come to, through everything
that is done on the buses. A write adds one message for the readers of its channel that are on the
hub it goes to, and nobody but the reader itself makes that less. -/

namespace Fanout

/-- The hub that a stream is on. -/
def Stream.hub? : Stream → Option Nat
  | .hub h _ _ => some h
  | .server _ _ => none

namespace Fabric

variable {fabric after : Fabric} {hub k reader bus : Nat} {name channel : String} {isOpen : Bool}
  {unread : Nat} {stream : Stream}

/-- The hub that what is written to a bus goes to. -/
def target? (fabric : Fabric) (bus : Nat) : Option Nat :=
  match fabric.bus bus with
  | .memory hub | .subscribeFailing hub => some hub
  | _ => none

/-- All hubs of the fabric hold logs of messages. -/
def Sane (fabric : Fabric) : Prop :=
  ∀ (hub : Nat) (memory : Hub), fabric.hubs[hub]? = some memory → memory.Sane

/-- The stream is of a channel of this name on a hub and has so many messages to come to. -/
def Sees (fabric : Fabric) (stream : Stream) (name : String) (isOpen : Bool) (unread : Nat) :
    Prop :=
  ∃ hub k reader memory, stream = .hub hub k reader ∧ fabric.hubs[hub]? = some memory ∧
    memory.Sees k reader name isOpen unread

theorem Sees.unread_eq (sees : fabric.Sees stream name isOpen unread) :
    fabric.unread stream = unread := by
  obtain ⟨hub, k, reader, memory, rfl, there, c, position, here, _, _, at?, left⟩ := sees
  have reached : c.position? reader = some position := by
    simpa only [Hub.position?, here, Option.bind_some] using at?
  simp only [Fabric.unread, there, here, Option.bind_some, Option.map_some, Option.getD_some,
    Channel.unread, reached]
  omega

/-! ## What an operation does to the hubs -/

theorem hubs_writeHub (fabric : Fabric) (hub : Nat) (channel : String) (message : Bytes) :
    (fabric.writeHub hub channel message).value.hubs
      = fabric.hubs.modify hub fun memory => (memory.write channel message).1 := by
  cases here : fabric.hubs[hub]? with
  | none =>
    rw [List.modify_eq_self (by simpa using here)]
    simp only [writeHub, here, Logged.value_pure]
  | some memory =>
    rw [modify_of_some here]
    simp only [writeHub, here]
    rfl

/-- Asking a server leaves hubs and buses alone. -/
theorem ask_spec {α : Type} (fabric : Fabric) (server : Nat) (kind : Error.Kind)
    (request : Server → Server × Except String α) :
    (fabric.ask server kind request).1.hubs = fabric.hubs ∧
      (fabric.ask server kind request).1.buses = fabric.buses := by
  unfold ask
  split <;> exact ⟨rfl, rfl⟩

/-- Opening a connection changes the bus that it is opened for at most. -/
theorem connect_spec (fabric : Fabric) (bus server : Nat) (connected : Bool) :
    (fabric.connect bus server connected).value.1.hubs = fabric.hubs ∧
      ((fabric.connect bus server connected).value.1.buses = fabric.buses ∨
        (fabric.connect bus server connected).value.1.buses
          = fabric.buses.set bus (.server server true)) := by
  have asked := fabric.ask_spec server .connection (·.connect)
  unfold connect
  split
  · exact ⟨rfl, .inl rfl⟩
  · rw [Logged.value_bind]
    split
    · rename_i same
      rw [same] at asked
      exact ⟨asked.1, .inl asked.2⟩
    · rename_i same
      rw [same] at asked
      exact ⟨asked.1, .inr (congrArg (List.set · bus _) asked.2)⟩

theorem writeServer_spec (fabric : Fabric) (server : Nat) (channel : String) (message : Bytes) :
    (fabric.writeServer server channel message).value.1.hubs = fabric.hubs ∧
      (fabric.writeServer server channel message).value.1.buses = fabric.buses := by
  have asked := fabric.ask_spec server .publish (·.write channel message)
  unfold writeServer
  split
  all_goals
    rename_i same
    rw [same] at asked
    exact asked

theorem subscribeServer_spec (fabric : Fabric) (server : Nat) (channel : String) :
    (fabric.subscribeServer server channel).value.1.hubs = fabric.hubs ∧
      (fabric.subscribeServer server channel).value.1.buses = fabric.buses ∧
      ∀ stream, (fabric.subscribeServer server channel).value.2 = .ok stream →
        ∃ subscriber, stream = .server server subscriber := by
  have asked := fabric.ask_spec server .connection (·.connect)
  unfold subscribeServer
  split
  · rename_i same
    rw [same] at asked
    refine ⟨asked.1, asked.2, ?_⟩
    simp
  · rename_i connected same
    rw [same] at asked
    have asked' := connected.ask_spec server .subscribe (·.subscribe channel)
    split
    all_goals
      rename_i same'
      rw [same'] at asked'
      refine ⟨asked'.1.trans asked.1, asked'.2.trans asked.2, ?_⟩
      simp

theorem hubs_write (fabric : Fabric) (bus : Nat) (channel : String) (message : Bytes) :
    (fabric.write bus channel message).value.1.hubs = match fabric.target? bus with
      | some hub => fabric.hubs.modify hub fun memory => (memory.write channel message).1
      | none => fabric.hubs := by
  unfold write target?
  cases fabric.bus bus with
  | memory hub | subscribeFailing hub => exact hubs_writeHub ..
  | unavailable | writeFailing _ | unreachable _ => rfl
  | server server connected =>
    have connects := (fabric.connect_spec bus server connected).1
    simp only [Logged.value_bind]
    split
    · exact connects
    · exact (writeServer_spec ..).1.trans connects

theorem next_value {memory : Hub} (here : fabric.hubs[hub]? = some memory) (k reader : Nat) :
    (fabric.next (.hub hub k reader)).value
      = ({ fabric with hubs := fabric.hubs.set hub (memory.next k reader).1 },
        (memory.next k reader).2) := by
  simp only [next, here]
  cases (memory.next k reader).2 with
  | item item => cases item <;> rfl
  | pending => rfl
  | ended => rfl

theorem hubs_next (fabric : Fabric) (hub k reader : Nat) :
    (fabric.next (.hub hub k reader)).value.1.hubs
      = fabric.hubs.modify hub fun memory => (memory.next k reader).1 := by
  cases here : fabric.hubs[hub]? with
  | none =>
    rw [List.modify_eq_self (by simpa using here)]
    simp only [next, here, Logged.value_pure]
  | some memory => rw [modify_of_some here, next_value here]

theorem hubs_shutdown (fabric : Fabric) (bus : Nat) :
    (fabric.shutdown bus).hubs = match fabric.hub? bus with
      | some hub => fabric.hubs.modify hub (·.shutdown)
      | none => fabric.hubs := by
  unfold shutdown
  cases fabric.hub? bus <;> rfl

theorem hubs_stop (fabric : Fabric) (bus : Nat) : (fabric.stop bus).hubs = fabric.hubs := by
  unfold stop
  split <;> rfl

/-- A stream that is opened is one of a new reader on the hub behind the bus, or is on no hub. -/
theorem subscribe_spec (fabric : Fabric) (bus : Nat) (channel : String) :
    (∃ hub memory after k reader, fabric.hub? bus = some hub ∧
      fabric.hubs[hub]? = some memory ∧ memory.subscribe channel = (after, k, reader) ∧
      (fabric.subscribe bus channel).value
        = ({ fabric with hubs := fabric.hubs.set hub after }, .ok (.hub hub k reader))) ∨
    ((fabric.subscribe bus channel).value.1.hubs = fabric.hubs ∧
      (fabric.subscribe bus channel).value.1.buses = fabric.buses ∧
      ∀ stream, (fabric.subscribe bus channel).value.2 = .ok stream →
        fabric.hub? bus = none ∧ ∃ server subscriber, stream = .server server subscriber) := by
  unfold subscribe hub?
  cases fabric.bus bus with
  | memory hub | writeFailing hub =>
    cases here : fabric.hubs[hub]? with
    | none =>
      refine .inr ?_
      simp [subscribeHub, here]
    | some memory =>
      rcases opened : memory.subscribe channel with ⟨after, k, reader⟩
      refine .inl ⟨hub, memory, after, k, reader, rfl, here, opened, ?_⟩
      simp only [subscribeHub, here, opened, Logged.value_pure]
  | unavailable | subscribeFailing _ | unreachable _ =>
    refine .inr ⟨rfl, rfl, ?_⟩
    simp
  | server server connected =>
    obtain ⟨hubs, buses, streams⟩ := fabric.subscribeServer_spec server channel
    exact .inr ⟨hubs, buses, fun stream opened => ⟨rfl, server, streams stream opened⟩⟩

/-! ## The buses -/

/-- The buses are the same, but for connections that were opened. -/
structure Alike (fabric after : Fabric) : Prop where
  hub? : ∀ bus, after.hub? bus = fabric.hub? bus
  target? : ∀ bus, after.target? bus = fabric.target? bus

theorem alike_of_buses (same : after.buses = fabric.buses) : fabric.Alike after := by
  constructor
  case hub? => simp [Fabric.hub?, Fabric.bus, same]
  case target? => simp [Fabric.target?, Fabric.bus, same]

theorem Alike.refl (fabric : Fabric) : fabric.Alike fabric := alike_of_buses rfl

theorem Alike.trans {last : Fabric} (first : fabric.Alike after) (second : after.Alike last) :
    fabric.Alike last :=
  ⟨fun bus => (second.hub? bus).trans (first.hub? bus),
    fun bus => (second.target? bus).trans (first.target? bus)⟩

theorem alike_connect {server : Nat} {connected : Bool}
    (here : fabric.bus bus = .server server connected) :
    fabric.Alike (fabric.connect bus server connected).value.1 := by
  rcases (fabric.connect_spec bus server connected).2 with same | opened
  · exact alike_of_buses same
  have others (other : Nat) (different : other ≠ bus) :
      (fabric.connect bus server connected).value.1.bus other = fabric.bus other := by
    simp only [Fabric.bus, opened, List.getElem?_set, if_neg different.symm]
  have own : (fabric.connect bus server connected).value.1.bus bus = .server server true := by
    have inside : bus < fabric.buses.length := by
      rw [← Nat.not_le]
      intro outside
      rw [Fabric.bus, List.getElem?_eq_none outside] at here
      contradiction
    simp [Fabric.bus, opened, inside]
  constructor
  case hub? =>
    intro other
    by_cases same : other = bus
    · rw [same, Fabric.hub?, Fabric.hub?, own, here]
    · rw [Fabric.hub?, Fabric.hub?, others other same]
  case target? =>
    intro other
    by_cases same : other = bus
    · rw [same, Fabric.target?, Fabric.target?, own, here]
    · rw [Fabric.target?, Fabric.target?, others other same]

theorem buses_writeHub (fabric : Fabric) (hub : Nat) (channel : String) (message : Bytes) :
    (fabric.writeHub hub channel message).value.buses = fabric.buses := by
  unfold writeHub
  split <;> rfl

theorem alike_write (fabric : Fabric) (bus : Nat) (channel : String) (message : Bytes) :
    fabric.Alike (fabric.write bus channel message).value.1 := by
  cases here : fabric.bus bus with
  | memory hub | subscribeFailing hub =>
    simp only [write, here, Logged.value_bind, Logged.value_pure]
    exact alike_of_buses (buses_writeHub ..)
  | unavailable | writeFailing _ | unreachable _ =>
    simp only [write, here, Logged.value_bind, Logged.value_pure]
    exact alike_of_buses rfl
  | server server connected =>
    have connects := alike_connect here
    simp only [write, here, Logged.value_bind]
    split
    · exact connects
    · exact connects.trans (alike_of_buses (writeServer_spec ..).2)

theorem alike_next (fabric : Fabric) (stream : Stream) :
    fabric.Alike (fabric.next stream).value.1 := by
  apply alike_of_buses
  cases stream with
  | hub hub k reader =>
    cases here : fabric.hubs[hub]? with
    | none => simp only [next, here, Logged.value_pure]
    | some memory => rw [next_value here]
  | server server subscriber =>
    simp only [next]
    split <;> rfl

theorem alike_drop (fabric : Fabric) (stream : Stream) : fabric.Alike (fabric.drop stream) := by
  apply alike_of_buses
  cases stream <;> rfl

theorem alike_shutdown (fabric : Fabric) (bus : Nat) : fabric.Alike (fabric.shutdown bus) := by
  apply alike_of_buses
  unfold shutdown
  split <;> rfl

theorem buses_stop (fabric : Fabric) (bus : Nat) : (fabric.stop bus).buses = fabric.buses := by
  unfold stop
  split <;> rfl

theorem alike_subscribe (fabric : Fabric) (bus : Nat) (channel : String) :
    fabric.Alike (fabric.subscribe bus channel).value.1 := by
  apply alike_of_buses
  rcases fabric.subscribe_spec bus channel with ⟨_, _, _, _, _, _, _, _, opened⟩ | ⟨_, same, _⟩
  · rw [opened]
  · exact same

/-! ## What a stream has to come to -/

/-- A change of one hub leaves the others sane. -/
theorem Sane.modify {f : Hub → Hub} {h : Nat} (sane : fabric.Sane)
    (hubs : after.hubs = fabric.hubs.modify h f)
    (keeps : ∀ memory, fabric.hubs[h]? = some memory → (f memory).Sane) : after.Sane := by
  intro hub memory there
  obtain ⟨before, here, rfl⟩ := getElem?_modify_cases (hubs ▸ there)
  split
  · rename_i same
    exact keeps before (same ▸ here)
  · exact sane hub before here

/-- A change of one hub is one for its streams at most. -/
theorem Sees.modify {f : Hub → Hub} {h : Nat} {isOpen' : Bool} {unread' : Nat}
    (sees : fabric.Sees stream name isOpen unread) (hubs : after.hubs = fabric.hubs.modify h f)
    (does : ∀ k reader memory, stream = .hub h k reader → fabric.hubs[h]? = some memory →
      memory.Sees k reader name isOpen unread → (f memory).Sees k reader name isOpen' unread')
    (elsewhere : (∀ k reader, stream ≠ .hub h k reader) → isOpen' = isOpen ∧ unread' = unread) :
    after.Sees stream name isOpen' unread' := by
  obtain ⟨hub, k, reader, memory, rfl, here, there⟩ := sees
  have changed : after.hubs[hub]? = some (if h = hub then f memory else memory) := by
    rw [hubs, List.getElem?_modify, here]
    rfl
  refine ⟨hub, k, reader, _, rfl, changed, ?_⟩
  split
  · rename_i same
    subst same
    exact does k reader memory rfl here there
  · rename_i different
    obtain ⟨rfl, rfl⟩ := elsewhere fun k' reader' same => by
      cases same
      exact different rfl
    exact there

theorem Sane.of_hubs (sane : fabric.Sane) (hubs : after.hubs = fabric.hubs) : after.Sane := by
  intro hub memory there
  exact sane hub memory (hubs ▸ there)

theorem Sees.of_hubs (sees : fabric.Sees stream name isOpen unread)
    (hubs : after.hubs = fabric.hubs) : after.Sees stream name isOpen unread := by
  obtain ⟨hub, k, reader, memory, rfl, here, there⟩ := sees
  exact ⟨hub, k, reader, memory, rfl, hubs ▸ here, there⟩

theorem Sane.write (sane : fabric.Sane) (bus : Nat) (channel : String) (message : Bytes) :
    (fabric.write bus channel message).value.1.Sane := by
  have hubs := fabric.hubs_write bus channel message
  cases target : fabric.target? bus with
  | none =>
    rw [target] at hubs
    exact sane.of_hubs hubs
  | some h =>
    rw [target] at hubs
    exact sane.modify hubs fun memory here => (sane h memory here).write channel message

/-- A write is one message more for a stream of the channel that it goes to. -/
theorem Sees.write (sees : fabric.Sees stream name isOpen unread) (sane : fabric.Sane) (bus : Nat)
    (channel : String) (message : Bytes) :
    (fabric.write bus channel message).value.1.Sees stream name isOpen
      (unread + if isOpen = true ∧ fabric.target? bus = stream.hub? ∧ channel = name then 1
        else 0) := by
  have hubs := fabric.hubs_write bus channel message
  obtain ⟨hub, _, _, _, same, _⟩ := id sees
  cases target : fabric.target? bus with
  | none =>
    rw [target] at hubs
    rw [if_neg (by simp [same, Stream.hub?])]
    exact sees.of_hubs hubs
  | some h =>
    rw [target] at hubs
    apply sees.modify hubs
    · rintro k reader memory rfl here there
      simpa only [Stream.hub?, true_and] using
        there.write (sane h memory here) channel message
    · intro elsewhere
      refine ⟨rfl, ?_⟩
      rw [if_neg, Nat.add_zero]
      rintro ⟨_, target, _⟩
      rw [same, Stream.hub?, Option.some.injEq] at target
      exact elsewhere _ _ (target ▸ same)

/-- A stream that is read has less to come to, by what was found. -/
theorem Sees.next (sees : fabric.Sees stream name isOpen unread) (sane : fabric.Sane) :
    ∃ left, (fabric.next stream).value.1.Sees stream name isOpen left ∧
      unread = left + (fabric.next stream).value.2.covers := by
  obtain ⟨hub, k, reader, memory, rfl, here, there⟩ := sees
  obtain ⟨_, _, left, sees', same⟩ := there.next (sane hub memory here)
  rw [next_value here]
  refine ⟨left, ⟨hub, k, reader, _, rfl, ?_, sees'⟩, same⟩
  exact List.getElem?_set_self (List.getElem?_eq_some_iff.mp here).1

/-- The stream is on no hub, or has a reader there. -/
def Held (fabric : Fabric) (stream : Stream) : Prop :=
  stream.hub? ≠ none → ∃ name isOpen unread, fabric.Sees stream name isOpen unread

theorem Held.sees {other : Nat} (held : fabric.Held (.hub other k reader)) :
    ∃ memory name isOpen unread, fabric.hubs[other]? = some memory ∧
      memory.Sees k reader name isOpen unread := by
  obtain ⟨name, isOpen, unread, _, _, _, memory, same, here, there⟩ := held (by simp [Stream.hub?])
  cases same
  exact ⟨memory, name, isOpen, unread, here, there⟩

theorem hubs_next_server (fabric : Fabric) (server subscriber : Nat) :
    (fabric.next (.server server subscriber)).value.1.hubs = fabric.hubs := by
  simp only [Fabric.next]
  split <;> rfl

theorem Sane.next (sane : fabric.Sane) (held : fabric.Held stream) :
    (fabric.next stream).value.1.Sane := by
  cases stream with
  | server server subscriber => exact sane.of_hubs (hubs_next_server ..)
  | hub h k reader =>
    obtain ⟨memory, _, _, _, here, there⟩ := held.sees
    refine sane.modify (hubs_next ..) fun other here' => ?_
    cases here.symm.trans here'
    exact (sane h memory here).keeps (there.next (sane h memory here)).1.toKeeps

section Others

variable {other : Stream}

/-- Reading a stream moves no other one. -/
theorem Sees.next_other (sees : fabric.Sees stream name isOpen unread) (sane : fabric.Sane)
    (held : fabric.Held other) (different : stream ≠ other) :
    (fabric.next other).value.1.Sees stream name isOpen unread := by
  cases other with
  | server server subscriber => exact sees.of_hubs (hubs_next_server ..)
  | hub h k' reader' =>
    obtain ⟨memory', _, _, _, here', there'⟩ := held.sees
    refine sees.modify (hubs_next ..) ?_ fun _ => ⟨rfl, rfl⟩
    rintro k reader memory rfl here there
    cases here.symm.trans here'
    obtain ⟨moves, others, _⟩ := there'.next (sane h memory' here)
    exact there.moves moves (others k reader fun same => different (by cases same; rfl))

theorem Sees.drop_other (sees : fabric.Sees stream name isOpen unread)
    (different : stream ≠ other) : (fabric.drop other).Sees stream name isOpen unread := by
  cases other with
  | server server subscriber => exact sees.of_hubs rfl
  | hub h k' reader' =>
    refine sees.modify (f := fun memory => memory.drop k' reader') rfl ?_ fun _ => ⟨rfl, rfl⟩
    rintro k reader memory rfl here there
    refine there.moves (Hub.moves_drop _ k' reader') ?_
    exact Hub.position?_drop _ k' reader' k reader fun same => different (by cases same; rfl)

end Others

theorem Sane.drop (sane : fabric.Sane) (stream : Stream) : (fabric.drop stream).Sane := by
  cases stream with
  | server server subscriber => exact sane.of_hubs rfl
  | hub h k reader =>
    refine sane.modify (f := fun memory => memory.drop k reader) rfl fun memory here => ?_
    exact (sane h memory here).keeps (Hub.moves_drop memory k reader).toKeeps

theorem Sane.shutdown (sane : fabric.Sane) (bus : Nat) : (fabric.shutdown bus).Sane := by
  have hubs := fabric.hubs_shutdown bus
  cases target : fabric.hub? bus with
  | none =>
    rw [target] at hubs
    exact sane.of_hubs hubs
  | some h =>
    rw [target] at hubs
    exact sane.modify hubs fun memory here => (sane h memory here).keeps memory.keeps_shutdown

theorem Sees.shutdown (sees : fabric.Sees stream name isOpen unread) (bus : Nat) :
    (fabric.shutdown bus).Sees stream name (isOpen && fabric.hub? bus != stream.hub?) unread := by
  have hubs := fabric.hubs_shutdown bus
  obtain ⟨hub, _, _, _, same, _⟩ := id sees
  cases target : fabric.hub? bus with
  | none =>
    rw [target] at hubs
    have others : (isOpen && none != stream.hub?) = isOpen := by
      rw [same]
      exact Bool.and_true isOpen
    rw [others]
    exact sees.of_hubs hubs
  | some h =>
    rw [target] at hubs
    apply sees.modify hubs
    · rintro k reader memory rfl here there
      simpa [Stream.hub?] using there.shutdown
    · intro elsewhere
      have different : h ≠ hub := fun target => elsewhere _ _ (target ▸ same)
      simp [same, Stream.hub?, different]

theorem Sane.subscribe (sane : fabric.Sane) (bus : Nat) (channel : String) :
    (fabric.subscribe bus channel).value.1.Sane := by
  rcases fabric.subscribe_spec bus channel with
    ⟨hub, memory, after, k, reader, _, here, opened, value⟩ | ⟨hubs, _⟩
  · rw [value]
    have grown := (sane hub memory here).subscribe channel
    rw [opened] at grown
    exact sane.modify (modify_of_some here fun _ => after).symm fun _ _ => grown
  · exact sane.of_hubs hubs

/-- Streams that are there are not reached by a new one. -/
theorem Sees.subscribe (sees : fabric.Sees stream name isOpen unread) (bus : Nat)
    (channel : String) : (fabric.subscribe bus channel).value.1.Sees stream name isOpen unread ∧
      (fabric.subscribe bus channel).value.2.toOption ≠ some stream := by
  rcases fabric.subscribe_spec bus channel with
    ⟨hub, memory, after, k, reader, _, here, opened, value⟩ | ⟨hubs, _, streams⟩
  · rw [value]
    constructor
    · refine sees.modify (modify_of_some here fun _ => after).symm ?_ fun _ => ⟨rfl, rfl⟩
      rintro k' reader' memory' rfl here' there
      cases here.symm.trans here'
      exact (there.subscribe opened).2
    · obtain ⟨_, k', reader', memory', rfl, here', there⟩ := sees
      intro same
      cases same
      cases here.symm.trans here'
      exact (there.subscribe opened).1 rfl
  · refine ⟨sees.of_hubs hubs, ?_⟩
    intro same
    cases opened : (fabric.subscribe bus channel).value.2 with
    | error _ => simp [opened, Except.toOption] at same
    | ok found =>
      rw [opened] at same
      cases same
      obtain ⟨_, server, subscriber, rfl⟩ := streams stream opened
      obtain ⟨_, _, _, _, same, _⟩ := sees
      contradiction

/-- A stream that is opened behind a hub has nothing to come to. -/
theorem sees_subscribe (opened : (fabric.subscribe bus channel).value.2 = .ok stream)
    (behind : fabric.hub? bus = some hub) : stream.hub? = some hub ∧
      (fabric.subscribe bus channel).value.1.Sees stream channel true 0 := by
  rcases fabric.subscribe_spec bus channel with
    ⟨hub', memory, after, k, reader, behind', here, opened', value⟩ | ⟨_, _, streams⟩
  · cases behind.symm.trans behind'
    rw [value] at opened ⊢
    cases opened
    refine ⟨rfl, hub, k, reader, after, rfl, ?_, Hub.sees_subscribe opened'⟩
    exact List.getElem?_set_self (List.getElem?_eq_some_iff.mp here).1
  · have none := (streams stream opened).1
    rw [behind] at none
    contradiction

end Fabric

end Fanout
