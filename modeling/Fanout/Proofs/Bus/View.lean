import Fanout.Proofs.Bus.Fabric

/-! What a channel is for one of its readers: how much there is to come to, and what is kept of that.
This is all that decides what the reader finds next, and other readers make no difference to it. -/

namespace Fanout

/-- A channel as one of its readers sees it. -/
structure View where
  name : String
  capacity : Nat
  isOpen : Bool
  /-- How many messages there are to come to, also where they are lost. -/
  unread : Nat
  /-- What is kept of these messages, oldest first. -/
  recent : List Bytes

namespace View

/-- A message more has been written. -/
def push (view : View) (message : Bytes) : View :=
  { view with
    unread := view.unread + 1
    recent := (view.recent ++ [message]).drop (view.recent.length + 1 - view.capacity) }

/-- A message was written to a channel of this name. -/
def write (view : View) (channel : String) (message : Bytes) : View :=
  if view.isOpen = true ∧ view.name = channel then view.push message else view

/-- What the reader finds next, and how it sees the channel then. -/
def next (view : View) : View × Next :=
  if view.capacity < view.unread then
    ({ view with unread := view.capacity }, .item (.lagged (view.unread - view.capacity)))
  else
    match view.recent with
    | message :: recent =>
      ({ view with unread := view.unread - 1, recent }, .item (.message message))
    | [] => (view, if view.isOpen then .pending else .ended)

theorem name_next (view : View) : view.next.1.name = view.name := by
  unfold next
  split
  · rfl
  · split <;> rfl

end View

namespace Channel

variable {channel after : Channel} {reader : Nat} {view : View}

def view? (channel : Channel) (reader : Nat) : Option View :=
  (channel.position? reader).map fun position =>
    ⟨channel.name, channel.capacity, channel.isOpen, channel.written - position,
      channel.kept.drop (channel.kept.length - (channel.written - position))⟩

/-- The channel keeps as much as it can, and no reader is ahead of it. -/
structure Full (channel : Channel) : Prop where
  kept : channel.kept.length = min channel.written channel.capacity
  positions : ∀ reader position, channel.position? reader = some position →
    position ≤ channel.written

theorem Holds.full {numbers : List Nat} {content : Nat → Option Bytes}
    (holds : channel.Holds numbers content) : channel.Full :=
  ⟨holds.kept_length.trans (congrArg (min · channel.capacity) holds.written.symm), holds.positions⟩

theorem view?_keeps (keeps : channel.Keeps after) (isOpen : after.isOpen = channel.isOpen)
    (stays : after.position? reader = channel.position? reader) :
    after.view? reader = channel.view? reader := by
  rw [view?, view?, stays, keeps.name, keeps.capacity, keeps.written, keeps.kept, isOpen]

theorem view?_close (channel : Channel) (reader : Nat) :
    channel.close.view? reader = (channel.view? reader).map ({ · with isOpen := false }) := by
  have stays : channel.close.position? reader = channel.position? reader := rfl
  rw [view?, view?, stays]
  cases channel.position? reader <;> rfl

theorem view?_write (full : channel.Full) (sees : channel.view? reader = some view)
    (message : Bytes) : (channel.write message).view? reader = some (view.push message) := by
  simp only [view?, Option.map_eq_some_iff] at sees
  obtain ⟨position, at?, rfl⟩ := sees
  have kept := full.kept
  have bound := full.positions reader position at?
  have unread : channel.written + 1 - position = channel.written - position + 1 := by omega
  rw [view?, position?_write, at?, Option.map_some, Channel.write, if_neg (receivers_pos at?)]
  simp only [View.push, unread, Option.some.injEq, View.mk.injEq, true_and]
  -- What is kept for the reader is the end of all that was kept, before the write and behind it.
  have before : channel.kept.drop (channel.kept.length - (channel.written - position)) ++ [message]
      = (channel.kept ++ [message]).drop
        (channel.kept.length - (channel.written - position)) := by
    rw [List.drop_append_of_le_length (Nat.sub_le ..)]
  rw [before, List.drop_drop, List.drop_drop]
  congr 1
  simp only [List.length_append, List.length_singleton, List.length_drop]
  omega

theorem view?_next (full : channel.Full) (sees : channel.view? reader = some view) :
    (channel.next reader).2 = view.next.2 ∧
      (channel.next reader).1.view? reader = some view.next.1 := by
  simp only [view?, Option.map_eq_some_iff] at sees
  obtain ⟨position, at?, rfl⟩ := sees
  have kept := full.kept
  have bound := full.positions reader position at?
  have inside := lt_of_position? at?
  have moved (p : Nat) : (channel.setPosition reader (some p)).view? reader
      = some ⟨channel.name, channel.capacity, channel.isOpen, channel.written - p,
        channel.kept.drop (channel.kept.length - (channel.written - p))⟩ := by
    rw [view?, position?_setPosition, if_pos ⟨rfl, inside⟩]
    rfl
  simp only [Channel.next, at?, View.next]
  by_cases behind : channel.capacity < channel.written - position
  · have behind' : channel.kept.length < channel.written - position := by omega
    have lost : channel.written - channel.kept.length - position
        = channel.written - position - channel.capacity := by omega
    have left : channel.written - (channel.written - channel.kept.length)
        = channel.capacity := by omega
    have all : channel.kept.length - (channel.written - position)
        = channel.kept.length - channel.capacity := by omega
    rw [if_pos behind, if_pos behind', moved, lost, left, all]
    exact ⟨rfl, rfl⟩
  · have notBehind : ¬ channel.kept.length < channel.written - position := by omega
    rw [if_neg behind, if_neg notBehind]
    cases here : channel.kept[channel.kept.length - (channel.written - position)]? with
    | none =>
      have outside := List.getElem?_eq_none_iff.mp here
      rw [List.drop_eq_nil_of_le outside, view?, at?, Option.map_some,
        List.drop_eq_nil_of_le outside]
      exact ⟨rfl, rfl⟩
    | some message =>
      obtain ⟨within, rfl⟩ := List.getElem?_eq_some_iff.mp here
      have unread : channel.written - (position + 1) = channel.written - position - 1 := by omega
      have rest : channel.kept.length - (channel.written - position - 1)
          = channel.kept.length - (channel.written - position) + 1 := by omega
      rw [List.drop_eq_getElem_cons within]
      refine ⟨rfl, ?_⟩
      rw [moved, unread, rest]

end Channel

namespace Hub

variable {hub after : Hub} {k reader : Nat} {name : String} {view : View}

def view? (hub : Hub) (k reader : Nat) : Option View := (hub.channels[k]?).bind (·.view? reader)

/-- A reader of a channel that is there. -/
theorem view?_eq_some (sees : hub.view? k reader = some view) :
    ∃ channel, hub.channels[k]? = some channel ∧ channel.view? reader = some view :=
  Option.bind_eq_some_iff.mp sees

theorem view?_of_channel {channel : Channel} (here : hub.channels[k]? = some channel)
    (reader : Nat) : hub.view? k reader = channel.view? reader := by
  rw [view?, here]
  rfl

theorem Sane.full (sane : hub.Sane) {channel : Channel} (here : hub.channels[k]? = some channel) :
    channel.Full := by
  obtain ⟨_, _, _, logs, _⟩ := sane
  exact (logs.holds k channel here).full

/-- Nobody but the reader itself changes what it sees by moving. -/
theorem view?_moves (moves : hub.Moves after)
    (stays : after.position? k reader = hub.position? k reader) (sees : hub.view? k reader = some view) :
    after.view? k reader = some view := by
  obtain ⟨channel, here, sees⟩ := view?_eq_some sees
  obtain ⟨channel', here', _, isOpen⟩ := moves.after here
  have reader' : channel'.position? reader = channel.position? reader := by
    simpa only [position?, here, here', Option.bind_some] using stays
  rw [view?_of_channel here', Channel.view?_keeps (moves.channel k _ _ here here') isOpen reader',
    sees]

theorem view?_channel (sees : hub.view? k reader = some view) (name : String) :
    (hub.channel name).1.view? k reader = some view := by
  obtain ⟨channel, here, sees⟩ := view?_eq_some sees
  rw [view?_of_channel (getElem?_channel_of_some name here), sees]

theorem view?_write (sane : hub.Sane) (sees : hub.view? k reader = some view) (name : String)
    (message : Bytes) :
    (hub.write name message).1.view? k reader = some (view.write name message) := by
  obtain ⟨channel, here, sees⟩ := view?_eq_some sees
  have full := sane.full here
  obtain ⟨_, _, _, logs, _⟩ := sane
  have target : (hub.channel name).2 = k ↔ view.isOpen = true ∧ view.name = name := by
    rw [logs.channel_snd here]
    simp only [Channel.view?, Option.map_eq_some_iff] at sees
    obtain ⟨_, _, rfl⟩ := sees
    rfl
  have written : (hub.write name message).1.channels[k]?
      = some (if (hub.channel name).2 = k then channel.write message else channel) := by
    rw [getElem?_write, getElem?_channel_of_some name here, Option.map_some]
  rw [view?_of_channel written, View.write]
  by_cases hit : (hub.channel name).2 = k
  · rw [if_pos hit, if_pos (target.mp hit), Channel.view?_write full sees]
  · rw [if_neg hit, if_neg fun both => hit (target.mpr both), sees]

theorem view?_next (sane : hub.Sane) (sees : hub.view? k reader = some view) :
    (hub.next k reader).2 = view.next.2 ∧
      (hub.next k reader).1.view? k reader = some view.next.1 := by
  obtain ⟨channel, here, sees⟩ := view?_eq_some sees
  obtain ⟨finds, sees'⟩ := Channel.view?_next (sane.full here) sees
  have inside := (List.getElem?_eq_some_iff.mp here).1
  have after : (hub.next k reader).1.channels[k]? = some (channel.next reader).1 := by
    simp only [Hub.next, here]
    exact List.getElem?_set_self inside
  refine ⟨?_, ?_⟩
  · rw [← finds, Hub.next, here]
  · rw [view?_of_channel after, sees']

theorem view?_shutdown (hub : Hub) (k reader : Nat) :
    hub.shutdown.view? k reader = (hub.view? k reader).map ({ · with isOpen := false }) := by
  simp only [view?, shutdown, List.getElem?_map]
  cases hub.channels[k]? with
  | none => rfl
  | some channel => exact channel.view?_close reader

theorem view?_subscribe_other (sees : hub.view? k reader = some view) {other : String}
    {j reader' : Nat} (opened : hub.subscribe other = (after, j, reader')) :
    after.view? k reader = some view := by
  obtain ⟨_, _, _, _, opened', moves, _, _, _, _, fresh, others⟩ := hub.subscribe_spec other
  cases opened.symm.trans opened'
  refine view?_moves moves ?_ (view?_channel sees other)
  rw [position?_channel]
  refine others k reader ?_
  intro same
  cases same
  obtain ⟨channel, here, sees⟩ := view?_eq_some sees
  simp only [Channel.view?, Option.map_eq_some_iff] at sees
  obtain ⟨position, at?, _⟩ := sees
  rw [position?, here, Option.bind_some, at?] at fresh
  contradiction

end Hub

namespace Fabric

variable {fabric after : Fabric} {stream other : Stream} {view view' : View}

def view? (fabric : Fabric) : Stream → Option View
  | .hub hub k reader => (fabric.hubs[hub]?).bind (·.view? k reader)
  | .server _ _ => none

theorem view?_eq_some (sees : fabric.view? stream = some view) :
    ∃ hub k reader memory, stream = .hub hub k reader ∧ fabric.hubs[hub]? = some memory ∧
      memory.view? k reader = some view := by
  cases stream with
  | server => contradiction
  | hub hub k reader =>
    obtain ⟨memory, here, sees⟩ := Option.bind_eq_some_iff.mp sees
    exact ⟨hub, k, reader, memory, rfl, here, sees⟩

/-- A change of one hub is one for its streams at most. -/
theorem view?_modify {f : Hub → Hub} {h : Nat} (hubs : after.hubs = fabric.hubs.modify h f)
    (sees : fabric.view? stream = some view)
    (does : ∀ k reader memory, stream = .hub h k reader → fabric.hubs[h]? = some memory →
      memory.view? k reader = some view → (f memory).view? k reader = some view')
    (elsewhere : (∀ k reader, stream ≠ .hub h k reader) → view' = view) :
    after.view? stream = some view' := by
  obtain ⟨hub, k, reader, memory, rfl, here, there⟩ := view?_eq_some sees
  have changed : after.hubs[hub]? = some (if h = hub then f memory else memory) := by
    rw [hubs, List.getElem?_modify, here]
    rfl
  rw [view?, changed, Option.bind_some]
  split
  · rename_i same
    subst same
    exact does k reader memory rfl here there
  · rename_i different
    rw [there, elsewhere fun k' reader' same => ?_]
    cases same
    exact different rfl

/-- What a stream has next is decided by what it sees. -/
theorem view?_next (sane : fabric.Sane) (sees : fabric.view? stream = some view) :
    (fabric.next stream).value.2 = view.next.2 ∧
      (fabric.next stream).value.1.view? stream = some view.next.1 := by
  obtain ⟨hub, k, reader, memory, rfl, here, there⟩ := view?_eq_some sees
  obtain ⟨finds, sees'⟩ := Hub.view?_next (sane hub memory here) there
  rw [next_value here]
  refine ⟨finds, ?_⟩
  rw [view?, List.getElem?_set_self (List.getElem?_eq_some_iff.mp here).1, Option.bind_some, sees']

theorem view?_of_hubs (hubs : after.hubs = fabric.hubs) (stream : Stream) :
    after.view? stream = fabric.view? stream := by
  cases stream <;> simp only [view?, hubs]

theorem view?_next_other (sane : fabric.Sane) (sees : fabric.view? stream = some view)
    (held : fabric.Held other) (different : stream ≠ other) :
    (fabric.next other).value.1.view? stream = some view := by
  cases other with
  | server server subscriber => rw [view?_of_hubs (hubs_next_server ..), sees]
  | hub h k' reader' =>
    obtain ⟨memory', _, _, _, here', there'⟩ := held.sees
    refine view?_modify (hubs_next ..) sees ?_ fun _ => rfl
    rintro k reader memory rfl here there
    cases here.symm.trans here'
    obtain ⟨moves, others, _⟩ := there'.next (sane h memory' here)
    exact Hub.view?_moves moves (others k reader fun same => different (by cases same; rfl)) there

theorem view?_drop_other (sees : fabric.view? stream = some view) (different : stream ≠ other) :
    (fabric.drop other).view? stream = some view := by
  cases other with
  | server server subscriber => exact (view?_of_hubs rfl stream).trans sees
  | hub h k' reader' =>
    refine view?_modify (f := fun memory => memory.drop k' reader') rfl sees ?_ fun _ => rfl
    rintro k reader memory rfl here there
    refine Hub.view?_moves (Hub.moves_drop _ k' reader') ?_ there
    exact Hub.position?_drop _ k' reader' k reader fun same => different (by cases same; rfl)

theorem view?_subscribe_other (sees : fabric.view? stream = some view) (bus : Nat)
    (channel : String) : (fabric.subscribe bus channel).value.1.view? stream = some view := by
  rcases fabric.subscribe_spec bus channel with
    ⟨hub, memory, after, k, reader, _, here, opened, value⟩ | ⟨hubs, _⟩
  · rw [value]
    refine view?_modify (modify_of_some here fun _ => after).symm sees ?_ fun _ => rfl
    rintro k' reader' memory' rfl here' there
    cases here.symm.trans here'
    exact Hub.view?_subscribe_other there opened
  · rw [view?_of_hubs hubs, sees]

end Fabric

end Fanout
