import Fanout.Proofs.Bus.Single

/-! What brokers need of their buses: that a write comes to every open stream of its channel, behind
all that was written there before, and that a stream is read in this order. A bus in memory is such
a medium as long as no reader falls behind. -/

namespace Fanout

/-- What is to come on a stream behind a write: the message is the last one where the stream is open
and the write is on its channel. -/
def arrive (name : String) (isOpen : Bool) (write? : Option (String × Bytes))
    (queue : List Bytes) : List Bytes :=
  match write? with
  | some (channel, message) =>
    if isOpen = true ∧ name = channel then queue ++ [message] else queue
  | none => queue

/-- What is found on a stream with this to come. -/
def findOn (isOpen : Bool) : List Bytes → Next
  | message :: _ => .item (.message message)
  | [] => if isOpen then .pending else .ended

/-- Buses that pass on what is written to them. `Waits` tells what a stream has to come to: its
channel, whether anything can follow, and the messages in their order. -/
structure Medium where
  Sound : Fabric → Prop
  /-- A bus that can be used for a channel. -/
  Takes : Nat → String → Prop
  /-- A bus that can be shut down, with no server behind it. -/
  Ends : Nat → Prop
  Waits : Fabric → Stream → String → Bool → List Bytes → Prop
  unread : ∀ {fabric stream name isOpen queue}, Sound fabric →
    Waits fabric stream name isOpen queue → fabric.unread stream = queue.length
  write : ∀ {fabric bus channel}, Sound fabric → Takes bus channel → ∀ message,
    (fabric.write bus channel message).value.2.isOk = true ∧
    Sound (fabric.write bus channel message).value.1 ∧
    ∀ {stream name isOpen queue}, Waits fabric stream name isOpen queue →
      Waits (fabric.write bus channel message).value.1 stream name isOpen
        (arrive name isOpen (some (channel, message)) queue)
  subscribe : ∀ {fabric bus channel}, Sound fabric → Takes bus channel →
    ∃ stream, (fabric.subscribe bus channel).value.2 = .ok stream ∧
      Sound (fabric.subscribe bus channel).value.1 ∧
      Waits (fabric.subscribe bus channel).value.1 stream channel true [] ∧
      ∀ {other name isOpen queue}, Waits fabric other name isOpen queue → other ≠ stream ∧
        Waits (fabric.subscribe bus channel).value.1 other name isOpen queue
  next : ∀ {fabric stream name isOpen queue}, Sound fabric →
    Waits fabric stream name isOpen queue →
    (∀ lost, (fabric.next stream).value.2 ≠ .item (.lagged lost)) →
    (fabric.next stream).value.2 = findOn isOpen queue ∧
    Sound (fabric.next stream).value.1 ∧
    Waits (fabric.next stream).value.1 stream name isOpen queue.tail ∧
    ∀ {other name isOpen queue}, Waits fabric other name isOpen queue → other ≠ stream →
      Waits (fabric.next stream).value.1 other name isOpen queue
  drop : ∀ {fabric stream name isOpen queue}, Sound fabric →
    Waits fabric stream name isOpen queue → Sound (fabric.drop stream) ∧
    ∀ {other name isOpen queue}, Waits fabric other name isOpen queue → other ≠ stream →
      Waits (fabric.drop stream) other name isOpen queue
  shutdown : ∀ {fabric bus}, Sound fabric → Ends bus → Sound (fabric.shutdown bus) ∧
    ∀ {stream name isOpen queue}, Waits fabric stream name isOpen queue →
      Waits (fabric.shutdown bus) stream name false queue
  stop : ∀ {fabric bus}, Sound fabric → Ends bus → fabric.stop bus = fabric

/-! ## A reader that does not fall behind -/

namespace View

variable {view : View} {queue : List Bytes}

/-- These messages are to come, as far as they are kept. -/
structure Holds (view : View) (queue : List Bytes) : Prop where
  unread : view.unread = queue.length
  recent : view.recent = queue.drop (queue.length - view.capacity)

theorem Holds.push (holds : view.Holds queue) (message : Bytes) :
    (view.push message).Holds (queue ++ [message]) := by
  have kept : view.recent.length = queue.length - (queue.length - view.capacity) := by
    rw [holds.recent, List.length_drop]
  constructor
  case unread => rw [View.push, holds.unread, List.length_append, List.length_singleton]
  case recent =>
    have inside : queue.length - view.capacity ≤ queue.length := Nat.sub_le ..
    have place : queue.length - view.capacity + (view.recent.length + 1 - view.capacity)
        = queue.length + 1 - view.capacity := by omega
    rw [List.length_append, List.length_singleton]
    refine Eq.trans ?_ (congrArg (List.drop · (queue ++ [message])) place)
    rw [← List.drop_drop, List.drop_append_of_le_length inside, ← holds.recent]
    rfl

theorem Holds.write (holds : view.Holds queue) (channel : String) (message : Bytes) :
    (view.write channel message).Holds
      (arrive view.name view.isOpen (some (channel, message)) queue) := by
  simp only [View.write, arrive]
  split
  · exact holds.push message
  · exact holds

/-- A reader that has not fallen behind finds the messages in their order. -/
theorem Holds.next (holds : view.Holds queue) (keepsUp : view.unread ≤ view.capacity) :
    view.next.2 = findOn view.isOpen queue ∧ view.next.1.Holds queue.tail ∧
      view.next.1.isOpen = view.isOpen := by
  have all : view.recent = queue := by
    rw [holds.recent, ← holds.unread, Nat.sub_eq_zero_of_le keepsUp, List.drop_zero]
  rw [View.next, if_neg (Nat.not_lt.mpr keepsUp), all]
  cases queue with
  | nil => exact ⟨rfl, holds, rfl⟩
  | cons message queue =>
    have unread := holds.unread
    rw [List.length_cons] at unread
    refine ⟨rfl, ⟨?_, ?_⟩, rfl⟩
    · simp only [unread, Nat.add_sub_cancel, List.tail_cons]
    · have fits : queue.length - view.capacity = 0 := by omega
      simp only [List.tail_cons, fits, List.drop_zero]

theorem keepsUp_of_next (message : ∀ lost, view.next.2 ≠ .item (.lagged lost)) :
    view.unread ≤ view.capacity := by
  rw [← Nat.not_lt]
  intro behind
  refine message (view.unread - view.capacity) ?_
  rw [View.next, if_pos behind]

end View

namespace Fabric

variable {fabric : Fabric} {stream : Stream} {view : View}

theorem sees_of_view? (sane : fabric.Sane) (sees : fabric.view? stream = some view) :
    fabric.Sees stream view.name view.isOpen view.unread := by
  obtain ⟨hub, k, reader, memory, rfl, here, there⟩ := view?_eq_some sees
  obtain ⟨channel, found, seen⟩ := Hub.view?_eq_some there
  obtain ⟨position, at?, rfl⟩ := Option.map_eq_some_iff.mp seen
  have bound := ((sane hub memory here).full found).positions reader position at?
  refine ⟨hub, k, reader, memory, rfl, here, channel, position, found, rfl, rfl, ?_,
    Nat.add_sub_cancel' bound⟩
  rw [Hub.position?, found, Option.bind_some, at?]

theorem held_of_view? (sane : fabric.Sane) (sees : fabric.view? stream = some view) :
    fabric.Held stream := fun _ => ⟨_, _, _, sees_of_view? sane sees⟩

/-- The stream is of this channel on a hub, and has these messages to come. -/
def Awaits (fabric : Fabric) (stream : Stream) (name : String) (isOpen : Bool)
    (queue : List Bytes) : Prop :=
  ∃ view, fabric.view? stream = some view ∧ view.name = name ∧ view.isOpen = isOpen ∧
    view.Holds queue

end Fabric

/-- One bus in memory. -/
def Medium.memory (capacity : Nat) : Medium where
  Sound fabric := fabric.Sane ∧ fabric.Single capacity
  Takes bus _ := bus = 0
  Ends bus := bus = 0
  Waits := Fabric.Awaits
  unread := by
    rintro fabric stream name isOpen queue ⟨sane, _⟩ ⟨view, sees, _, _, holds⟩
    rw [(Fabric.sees_of_view? sane sees).unread_eq, holds.unread]
  write := by
    rintro fabric bus channel ⟨sane, single⟩ rfl message
    refine ⟨single.write_snd 0 channel message, ⟨sane.write 0 channel message,
      single.write 0 channel message⟩, ?_⟩
    rintro stream name isOpen queue ⟨view, sees, rfl, rfl, holds⟩
    have same : (view.write channel message).name = view.name ∧
        (view.write channel message).isOpen = view.isOpen := by
      unfold View.write
      split <;> exact ⟨rfl, rfl⟩
    exact ⟨_, single.view?_write sane sees 0 channel message, same.1, same.2,
      holds.write channel message⟩
  subscribe := by
    rintro fabric bus channel ⟨sane, single⟩ rfl
    obtain ⟨stream, opened, sees⟩ := single.subscribe channel
    refine ⟨stream, opened, ⟨sane.subscribe 0 channel, single.opens 0 channel⟩,
      ⟨_, sees, rfl, rfl, rfl, List.drop_nil.symm⟩, ?_⟩
    rintro other name isOpen queue ⟨view, sees', same⟩
    refine ⟨?_, view, Fabric.view?_subscribe_other sees' 0 channel, same⟩
    rintro rfl
    have different := ((Fabric.sees_of_view? sane sees').subscribe 0 channel).2
    rw [opened] at different
    exact different rfl
  next := by
    rintro fabric stream name isOpen queue ⟨sane, single⟩ ⟨view, sees, rfl, rfl, holds⟩ keepsUp
    obtain ⟨finds, sees'⟩ := Fabric.view?_next sane sees
    rw [finds] at keepsUp
    obtain ⟨found, holds', isOpen⟩ := holds.next (View.keepsUp_of_next keepsUp)
    have held := Fabric.held_of_view? sane sees
    refine ⟨finds.trans found, ⟨sane.next held, single.next stream⟩,
      ⟨_, sees', View.name_next view, isOpen, holds'⟩, ?_⟩
    rintro other name isOpen queue ⟨view', sees'', same⟩ different
    exact ⟨view', Fabric.view?_next_other sane sees'' held different, same⟩
  drop := by
    rintro fabric stream name isOpen queue ⟨sane, single⟩ _
    refine ⟨⟨sane.drop stream, single.drop stream⟩, ?_⟩
    rintro other name isOpen queue ⟨view, sees, same⟩ different
    exact ⟨view, Fabric.view?_drop_other sees different, same⟩
  shutdown := by
    rintro fabric bus ⟨sane, single⟩ rfl
    refine ⟨⟨sane.shutdown 0, single.shutdown 0⟩, ?_⟩
    rintro stream name isOpen queue ⟨view, sees, named, _, holds⟩
    exact ⟨_, single.view?_shutdown sees 0, named, rfl, holds.unread, holds.recent⟩
  stop := by
    rintro fabric bus ⟨_, single⟩ rfl
    rw [Fabric.stop, single.bus_eq, if_pos rfl]

end Fanout
