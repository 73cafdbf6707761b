import Fanout.Proofs.Bus.View

/-! A fabric with one bus, in memory. Whatever is done on it, it remains the only bus, and every channel
that is made has room for as many messages as the first one. -/

namespace Fanout

namespace Hub

variable {hub after : Hub} {k reader capacity : Nat} {name : String}

/-- Every channel of the hub has room for as many messages as one that is made now. -/
structure Uniform (hub : Hub) (capacity : Nat) : Prop where
  own : hub.capacity = capacity
  channels : ∀ channel ∈ hub.channels, channel.capacity = (Channel.new "" capacity).capacity

theorem uniform_new (capacity : Nat) : (Hub.new capacity).Uniform capacity :=
  ⟨rfl, fun _ member => absurd member List.not_mem_nil⟩

theorem Uniform.keeps (uniform : hub.Uniform capacity) (keeps : hub.Keeps after)
    (same : after.capacity = hub.capacity) : after.Uniform capacity := by
  refine ⟨same.trans uniform.own, fun channel member => ?_⟩
  obtain ⟨k, here⟩ := List.mem_iff_getElem?.mp member
  obtain ⟨before, there, kept⟩ := keeps.before here
  exact kept.capacity.trans (uniform.channels before (List.mem_of_getElem? there))

theorem Uniform.channel (uniform : hub.Uniform capacity) (name : String) :
    (hub.channel name).1.Uniform capacity := by
  cases found : hub.find? name with
  | some k =>
    rw [channel_of_find? found]
    exact uniform
  | none =>
    rw [channel_of_none found]
    refine ⟨uniform.own, fun channel member => ?_⟩
    rcases List.mem_append.mp member with old | new
    · exact uniform.channels channel old
    · cases List.mem_singleton.mp new
      rw [uniform.own]
      rfl

theorem capacity_write (channel : Channel) (message : Bytes) :
    (channel.write message).capacity = channel.capacity := by
  unfold Channel.write
  split <;> rfl

theorem Uniform.write (uniform : hub.Uniform capacity) (name : String) (message : Bytes) :
    (hub.write name message).1.Uniform capacity := by
  have grown := uniform.channel name
  refine ⟨grown.own, fun channel member => ?_⟩
  obtain ⟨k, here⟩ := List.mem_iff_getElem?.mp member
  obtain ⟨before, there, rfl⟩ := before_write here
  have same := grown.channels before (List.mem_of_getElem? there)
  split
  · rw [capacity_write, same]
  · exact same

theorem capacity_next (channel : Channel) (reader : Nat) :
    (channel.next reader).1.capacity = channel.capacity := by
  simp only [Channel.next]
  cases channel.position? reader with
  | none => rfl
  | some position =>
    simp only
    split
    · rfl
    · split <;> rfl

theorem Uniform.next (uniform : hub.Uniform capacity) (k reader : Nat) :
    (hub.next k reader).1.Uniform capacity := by
  cases here : hub.channels[k]? with
  | none =>
    simp only [Hub.next, here]
    exact uniform
  | some channel =>
    simp only [Hub.next, here]
    refine ⟨uniform.own, fun other member => ?_⟩
    rcases List.mem_or_eq_of_mem_set member with old | rfl
    · exact uniform.channels other old
    · rw [capacity_next, uniform.channels channel (List.mem_of_getElem? here)]

theorem capacity_channel (hub : Hub) (name : String) :
    (hub.channel name).1.capacity = hub.capacity := by
  unfold channel
  split <;> rfl

theorem capacity_subscribe (hub : Hub) (name : String) :
    (hub.subscribe name).1.capacity = hub.capacity := by
  simp only [subscribe]
  split <;> exact hub.capacity_channel name

/-- A new reader sees an open channel of the name with nothing to come to. -/
theorem view?_subscribe (uniform : hub.Uniform capacity) (opened : hub.subscribe name
      = (after, k, reader)) : after.Uniform capacity ∧ after.view? k reader
        = some ⟨name, (Channel.new "" capacity).capacity, true, 0, []⟩ := by
  obtain ⟨after', k', reader', c, opened', moves, here, isOpen, named, at?, _⟩ :=
    hub.subscribe_spec name
  cases opened.symm.trans opened'
  have same := (hub.capacity_subscribe name).trans (hub.capacity_channel name).symm
  rw [opened] at same
  have uniform' := (uniform.channel name).keeps moves.toKeeps same
  have room := uniform'.channels c (List.mem_of_getElem? here)
  have reached : c.position? reader = some c.written := by
    simpa only [position?, here, Option.bind_some] using at?
  refine ⟨uniform', ?_⟩
  rw [view?_of_channel here, Channel.view?, reached, Option.map_some, named, isOpen, room]
  simp

end Hub

namespace Fabric

variable {fabric after : Fabric} {stream : Stream} {view : View} {capacity : Nat}

/-- There is one bus, and it is in memory. -/
structure Single (fabric : Fabric) (capacity : Nat) : Prop where
  buses : fabric.buses = [.memory 0]
  hubs : ∃ hub, fabric.hubs = [hub] ∧ hub.Uniform capacity

theorem Single.bus_eq (single : fabric.Single capacity) (bus : Nat) :
    fabric.bus bus = if bus = 0 then .memory 0 else .unavailable := by
  rw [Fabric.bus, single.buses]
  cases bus <;> rfl

/-- The bus takes every write, and there is no other one. -/
theorem Single.write_snd (single : fabric.Single capacity) (bus : Nat) (channel : String)
    (message : Bytes) : (fabric.write bus channel message).value.2.isOk = decide (bus = 0) := by
  rw [Fabric.write, single.bus_eq]
  by_cases first : bus = 0
  · rw [if_pos first, decide_eq_true first]
    rfl
  · rw [if_neg first, decide_eq_false first]
    rfl

theorem Single.target?_eq (single : fabric.Single capacity) (bus : Nat) :
    fabric.target? bus = if bus = 0 then some 0 else none := by
  rw [target?, single.bus_eq]
  by_cases first : bus = 0
  · rw [if_pos first, if_pos first]
  · rw [if_neg first, if_neg first]

theorem Single.hub?_eq (single : fabric.Single capacity) (bus : Nat) :
    fabric.hub? bus = if bus = 0 then some 0 else none := by
  rw [hub?, single.bus_eq]
  by_cases first : bus = 0
  · rw [if_pos first, if_pos first]
  · rw [if_neg first, if_neg first]

/-- All streams are on the hub behind the bus. -/
theorem Single.eq_hub (single : fabric.Single capacity) (sees : fabric.view? stream = some view) :
    ∃ k reader, stream = .hub 0 k reader := by
  obtain ⟨hub, k, reader, memory, rfl, here, _⟩ := view?_eq_some sees
  obtain ⟨only, hubs, _⟩ := single.hubs
  cases hub with
  | zero => exact ⟨k, reader, rfl⟩
  | succ => simp [hubs] at here

theorem Single.view?_write (single : fabric.Single capacity) (sane : fabric.Sane)
    (sees : fabric.view? stream = some view) (bus : Nat) (channel : String) (message : Bytes) :
    (fabric.write bus channel message).value.1.view? stream
      = some (if bus = 0 then view.write channel message else view) := by
  have hubs := fabric.hubs_write bus channel message
  obtain ⟨k, reader, rfl⟩ := single.eq_hub sees
  rw [single.target?_eq] at hubs
  by_cases first : bus = 0
  · rw [if_pos first] at hubs ⊢
    refine view?_modify hubs sees ?_ fun elsewhere => absurd rfl (elsewhere k reader)
    rintro k reader memory same here there
    exact Hub.view?_write (sane 0 memory here) there channel message
  · rw [if_neg first] at hubs ⊢
    rw [view?_of_hubs hubs, sees]

theorem Single.view?_shutdown (single : fabric.Single capacity)
    (sees : fabric.view? stream = some view) (bus : Nat) :
    (fabric.shutdown bus).view? stream
      = some (if bus = 0 then { view with isOpen := false } else view) := by
  have hubs := fabric.hubs_shutdown bus
  obtain ⟨k, reader, rfl⟩ := single.eq_hub sees
  rw [single.hub?_eq] at hubs
  by_cases first : bus = 0
  · rw [if_pos first] at hubs ⊢
    refine view?_modify hubs sees ?_ fun elsewhere => absurd rfl (elsewhere k reader)
    rintro k reader memory same here there
    rw [Hub.view?_shutdown, there]
    rfl
  · rw [if_neg first] at hubs ⊢
    rw [view?_of_hubs hubs, sees]

/-- A stream can be opened on the bus, and it has nothing to come to. -/
theorem Single.subscribe (single : fabric.Single capacity) (channel : String) :
    ∃ stream, (fabric.subscribe 0 channel).value.2 = .ok stream ∧
      (fabric.subscribe 0 channel).value.1.view? stream
        = some ⟨channel, (Channel.new "" capacity).capacity, true, 0, []⟩ := by
  obtain ⟨hub, hubs, uniform⟩ := single.hubs
  rcases opened : hub.subscribe channel with ⟨after, k, reader⟩
  have here : fabric.hubs[0]? = some hub := by rw [hubs]; rfl
  have value : (fabric.subscribe 0 channel).value
      = ({ fabric with hubs := fabric.hubs.set 0 after }, .ok (.hub 0 k reader)) := by
    simp only [Fabric.subscribe, single.bus_eq, if_true, subscribeHub, here, opened,
      Logged.value_pure]
  have inside := (List.getElem?_eq_some_iff.mp here).1
  rw [value]
  refine ⟨_, rfl, ?_⟩
  rw [view?, List.getElem?_set_self inside, Option.bind_some]
  exact (Hub.view?_subscribe uniform opened).2

theorem Single.subscribe_elsewhere (single : fabric.Single capacity) {bus : Nat}
    (elsewhere : bus ≠ 0) (channel : String) :
    ∃ fault, (fabric.subscribe bus channel).value.2 = .error fault := by
  simp only [Fabric.subscribe, single.bus_eq, if_neg elsewhere, Logged.value_pure]
  exact ⟨_, rfl⟩

/-! ## The bus remains the only one -/

theorem Single.of_hubs (single : fabric.Single capacity) (buses : after.buses = fabric.buses)
    (hubs : after.hubs = fabric.hubs) : after.Single capacity :=
  ⟨buses.trans single.buses, hubs ▸ single.hubs⟩

theorem Single.modify {f : Hub → Hub} (single : fabric.Single capacity) (hub : Nat)
    (buses : after.buses = fabric.buses) (hubs : after.hubs = fabric.hubs.modify hub f)
    (uniform : ∀ memory, memory.Uniform capacity → (f memory).Uniform capacity) :
    after.Single capacity := by
  obtain ⟨memory, only, uniform'⟩ := single.hubs
  refine ⟨buses.trans single.buses, ?_⟩
  rw [hubs, only]
  cases hub with
  | zero => exact ⟨f memory, rfl, uniform memory uniform'⟩
  | succ => exact ⟨memory, by simp, uniform'⟩

theorem Single.write (single : fabric.Single capacity) (bus : Nat) (channel : String)
    (message : Bytes) : (fabric.write bus channel message).value.1.Single capacity := by
  have hubs := fabric.hubs_write bus channel message
  have buses : (fabric.write bus channel message).value.1.buses = fabric.buses := by
    rw [Fabric.write, single.bus_eq]
    by_cases first : bus = 0
    · rw [if_pos first]
      exact buses_writeHub ..
    · rw [if_neg first]
      rfl
  cases target : fabric.target? bus with
  | none =>
    rw [target] at hubs
    exact single.of_hubs buses hubs
  | some hub =>
    rw [target] at hubs
    exact single.modify hub buses hubs fun memory uniform => uniform.write channel message

theorem Single.next (single : fabric.Single capacity) (stream : Stream) :
    (fabric.next stream).value.1.Single capacity := by
  have buses : (fabric.next stream).value.1.buses = fabric.buses := by
    cases stream with
    | server server subscriber =>
      simp only [Fabric.next]
      split <;> rfl
    | hub hub k reader =>
      cases here : fabric.hubs[hub]? with
      | none => simp only [Fabric.next, here, Logged.value_pure]
      | some memory => rw [next_value here]
  cases stream with
  | server server subscriber => exact single.of_hubs buses (hubs_next_server ..)
  | hub hub k reader =>
    exact single.modify hub buses (hubs_next ..) fun memory uniform => uniform.next k reader

theorem Single.drop (single : fabric.Single capacity) (stream : Stream) :
    (fabric.drop stream).Single capacity := by
  cases stream with
  | server => exact single.of_hubs rfl rfl
  | hub hub k reader =>
    refine single.modify (f := fun memory => memory.drop k reader) hub rfl rfl ?_
    intro memory uniform
    exact uniform.keeps (Hub.moves_drop memory k reader).toKeeps rfl

theorem Single.shutdown (single : fabric.Single capacity) (bus : Nat) :
    (fabric.shutdown bus).Single capacity := by
  have hubs := fabric.hubs_shutdown bus
  have buses : (fabric.shutdown bus).buses = fabric.buses := by
    unfold Fabric.shutdown
    split <;> rfl
  cases target : fabric.hub? bus with
  | none =>
    rw [target] at hubs
    exact single.of_hubs buses hubs
  | some hub =>
    rw [target] at hubs
    exact single.modify hub buses hubs fun memory uniform => uniform.keeps memory.keeps_shutdown rfl

theorem Single.stop (single : fabric.Single capacity) (bus : Nat) :
    (fabric.stop bus).Single capacity :=
  single.of_hubs (fabric.buses_stop bus) (fabric.hubs_stop bus)

theorem Single.opens (single : fabric.Single capacity) (bus : Nat) (channel : String) :
    (fabric.subscribe bus channel).value.1.Single capacity := by
  rcases fabric.subscribe_spec bus channel with
    ⟨hub, memory, after, k, reader, _, here, opened, value⟩ | ⟨hubs, buses, _⟩
  · rw [value]
    obtain ⟨only, hubs, uniform⟩ := single.hubs
    refine single.modify hub rfl (modify_of_some here fun _ => after).symm fun _ _ => ?_
    have same : memory = only := by
      rw [hubs] at here
      exact List.mem_singleton.mp (List.mem_of_getElem? here)
    exact (Hub.view?_subscribe (same ▸ uniform) opened).1
  · exact single.of_hubs buses hubs

end Fabric

end Fanout
