import Fanout.Proofs.Bus.Medium
import Mathlib.Order.Bounds.Basic

/-! What is done with a bus in memory and its clones, and what one reader sees of it. All clones stand
before one hub, and a channel of it keeps the least power of two of messages that is enough. -/

namespace Fanout

/-! ## How much a bus keeps -/

/-- The loop of `Nat.nextPowerOfTwo`, which is private there. -/
def doubledTo (bound power : Nat) (positive : 0 < power) : Nat :=
  if below : power < bound then
    doubledTo bound (power * 2) (Nat.mul_pos positive (by decide))
  else power
termination_by bound - power
decreasing_by exact Nat.nextPowerOfTwo_dec positive below

theorem nextPowerOfTwo_eq (n : Nat) : n.nextPowerOfTwo = doubledTo n 1 Nat.one_pos := by
  with_unfolding_all rfl

theorem two_mul_le {p q : Nat} (power : p.isPowerOfTwo) (power' : q.isPowerOfTwo) (below : p < q) :
    p * 2 ≤ q := by
  obtain ⟨i, rfl⟩ := power
  obtain ⟨j, rfl⟩ := power'
  have less : i < j := (Nat.pow_lt_pow_iff_right (by decide)).mp below
  rw [← Nat.pow_succ]
  exact Nat.pow_le_pow_right (by decide) less

theorem isLeast_doubledTo {bound power : Nat} {positive : 0 < power} (isPower : power.isPowerOfTwo)
    (lower : ∀ q : Nat, q.isPowerOfTwo → bound ≤ q → power ≤ q) :
    IsLeast {p : Nat | p.isPowerOfTwo ∧ bound ≤ p} (doubledTo bound power positive) := by
  fun_induction doubledTo bound power positive with
  | case1 power positive below ih =>
    refine ih (Nat.isPowerOfTwo_mul_two_of_isPowerOfTwo isPower) fun q isPower' above => ?_
    exact two_mul_le isPower isPower' (Nat.lt_of_lt_of_le below above)
  | case2 power positive above =>
    exact ⟨⟨isPower, Nat.le_of_not_lt above⟩, fun q member => lower q member.1 member.2⟩

/-- A channel keeps the least power of two of messages that is not below what is asked for. -/
theorem Channel.isLeast_capacity (name : String) (capacity : Nat) :
    IsLeast {p : Nat | p.isPowerOfTwo ∧ max 1 capacity ≤ p} (Channel.new name capacity).capacity := by
  rw [Channel.new, nextPowerOfTwo_eq, Nat.max_comm]
  exact isLeast_doubledTo Nat.isPowerOfTwo_one fun q _ above => by omega

/-! ## What is done with a bus and its clones -/

/-- One use of a bus, through any of its clones or by any of its streams. -/
inductive Use (clones : Nat) where
  | write (bus : Fin (clones + 1)) (channel : String) (message : Bytes)
  | subscribe (bus : Fin (clones + 1)) (channel : String)
  | next (stream : Stream)
  | drop (stream : Stream)
  | shutdown (bus : Fin (clones + 1))
  deriving DecidableEq

/-- Buses that share one hub. -/
def Fabric.shared (hub : Hub) (clones : Nat) : Fabric :=
  ⟨[hub], [], .replicate (clones + 1) (.memory 0)⟩

namespace Use

variable {clones : Nat}

def perform (fabric : Fabric) : Use clones → Fabric
  | .write bus channel message => (fabric.write bus channel message).value.1
  | .subscribe bus channel => (fabric.subscribe bus channel).value.1
  | .next stream => (fabric.next stream).value.1
  | .drop stream => fabric.drop stream
  | .shutdown bus => fabric.shutdown bus

def run (fabric : Fabric) (uses : List (Use clones)) : Fabric := uses.foldl perform fabric

/-- The message of a write to this channel. -/
def message? (channel : String) : Use clones → Option Bytes
  | .write _ name message => if name = channel then some message else none
  | _ => none

def ends : Use clones → Bool
  | .shutdown _ => true
  | _ => false

/-- What is written to a channel before the next shutdown. -/
def posted (channel : String) (uses : List (Use clones)) : List Bytes :=
  (uses.takeWhile fun use => !use.ends).filterMap (message? channel)

/-- The item that is read from the stream. -/
def item? (stream : Stream) (fabric : Fabric) : Use clones → Option BusItem
  | .next other => if other = stream then (fabric.next stream).value.2.item? else none
  | _ => none

/-- All items that are read from the stream. -/
def items (stream : Stream) (fabric : Fabric) : List (Use clones) → List BusItem
  | [] => []
  | use :: uses => (use.item? stream fabric).toList ++ items stream (use.perform fabric) uses

end Use

/-! ## One reader -/

namespace View

variable {view : View} {queue : List Bytes} {clones : Nat}

/-- What a reader sees of something that another one does. -/
def meets (view : View) : Use clones → View
  | .write _ channel message => view.write channel message
  | .shutdown _ => { view with isOpen := false }
  | .subscribe _ _ | .next _ | .drop _ => view

theorem frame_meets (view : View) (use : Use clones) : (view.meets use).name = view.name ∧
    (view.meets use).capacity = view.capacity ∧
    (view.meets use).isOpen = (view.isOpen && !use.ends) := by
  cases use with
  | write bus channel message =>
    simp only [meets, View.write, Use.ends, Bool.not_false, Bool.and_true]
    split <;> exact ⟨rfl, rfl, rfl⟩
  | shutdown bus => exact ⟨rfl, rfl, (Bool.and_false _).symm⟩
  | subscribe | next | drop => exact ⟨rfl, rfl, (Bool.and_true _).symm⟩

theorem Holds.meets (holds : view.Holds queue) (use : Use clones) : (view.meets use).Holds
    (queue ++ if view.isOpen then (use.message? view.name).toList else []) := by
  cases use with
  | write bus channel message =>
    have written := holds.write channel message
    simp only [arrive] at written
    cases open? : view.isOpen with
    | false => simpa [View.meets, open?] using written
    | true =>
      by_cases same : view.name = channel
      · simpa [View.meets, Use.message?, open?, same] using written
      · simpa [View.meets, Use.message?, open?, same, Ne.symm same] using written
  | shutdown bus =>
    refine ⟨?_, ?_⟩ <;> simp [View.meets, Use.message?, holds.unread, holds.recent]
  | subscribe | next | drop => simpa [View.meets, Use.message?] using holds

end View

/-! ## The hub behind the buses -/

namespace Hub

variable {hub : Hub} {capacity k reader : Nat}

theorem next_absent (absent : hub.position? k reader = none) : (hub.next k reader).1 = hub := by
  unfold Hub.next
  cases here : hub.channels[k]? with
  | none => rfl
  | some channel =>
    have gone : channel.position? reader = none := by
      simpa only [position?, here, Option.bind_some] using absent
    have same : hub.channels.set k channel = hub.channels := by
      obtain ⟨_, rfl⟩ := List.getElem?_eq_some_iff.mp here
      exact List.set_getElem_self _
    simp only [Channel.next, gone, same]

/-- A read moves one reader at most. -/
theorem Sane.moves_next (sane : hub.Sane) (k reader : Nat) : hub.Moves (hub.next k reader).1 ∧
    ∀ j other, (j, other) ≠ (k, reader) →
      (hub.next k reader).1.position? j other = hub.position? j other := by
  obtain ⟨stored, content, _, logs, _⟩ := sane
  cases at? : hub.position? k reader with
  | none =>
    rw [next_absent at?]
    exact ⟨.refl hub, fun _ _ _ => rfl⟩
  | some position =>
    obtain ⟨_, _, _, _, moves, positions⟩ := logs.next at?
    refine ⟨moves, fun j other different => ?_⟩
    rw [positions, if_neg]
    rintro ⟨rfl, rfl⟩
    exact different rfl

end Hub

namespace Use

variable {clones capacity k reader : Nat} {hub : Hub}

/-- What a use of a bus does to the hub behind it. -/
def onHub (hub : Hub) : Use clones → Hub
  | .write _ channel message => (hub.write channel message).1
  | .subscribe _ channel => (hub.subscribe channel).1
  | .next (.hub 0 k reader) => (hub.next k reader).1
  | .drop (.hub 0 k reader) => hub.drop k reader
  | .shutdown _ => hub.shutdown
  | _ => hub

theorem shared_bus (hub : Hub) (bus : Fin (clones + 1)) :
    (Fabric.shared hub clones).bus bus = .memory 0 := by
  have here : (List.replicate (clones + 1) (Bus.memory 0))[bus.val]? = some (.memory 0) := by
    rw [List.getElem?_replicate, if_pos bus.isLt]
  rw [Fabric.bus, Fabric.shared, here, Option.getD_some]

theorem shared_next (hub : Hub) (clones k reader : Nat) :
    ((Fabric.shared hub clones).next (.hub 0 k reader)).value
      = (.shared (hub.next k reader).1 clones, (hub.next k reader).2) :=
  Fabric.next_value rfl k reader

theorem shared_subscribe (hub : Hub) (bus : Fin (clones + 1)) (channel : String) :
    ((Fabric.shared hub clones).subscribe bus channel).value
      = (.shared (hub.subscribe channel).1 clones,
        .ok (.hub 0 (hub.subscribe channel).2.1 (hub.subscribe channel).2.2)) := by
  simp only [Fabric.subscribe, shared_bus]
  rfl

/-- Through whichever bus something is done, it is done to the one hub. -/
theorem perform_shared (hub : Hub) (use : Use clones) :
    use.perform (.shared hub clones) = .shared (use.onHub hub) clones := by
  cases use with
  | write bus channel message =>
    simp only [perform, Fabric.write, shared_bus]
    rfl
  | subscribe bus channel => simp only [perform, shared_subscribe, onHub]
  | next stream =>
    rcases stream with ⟨_ | _, k, reader⟩ | _
    · simp only [perform, shared_next, onHub]
    · rfl
    · rfl
  | drop stream =>
    rcases stream with ⟨_ | _, k, reader⟩ | _
    · rfl
    · simp [perform, Fabric.drop, Fabric.shared, onHub]
    · simp [perform, Fabric.drop, Fabric.shared, onHub]
  | shutdown bus =>
    simp only [perform, Fabric.shutdown, Fabric.hub?, shared_bus]
    rfl

theorem uniform_onHub (uniform : hub.Uniform capacity) (use : Use clones) :
    (use.onHub hub).Uniform capacity := by
  unfold onHub
  split
  · exact uniform.write ..
  · rename_i channel
    exact (Hub.view?_subscribe uniform rfl).1
  · exact uniform.next ..
  · exact uniform.keeps (Hub.moves_drop ..).toKeeps rfl
  · exact uniform.keeps hub.keeps_shutdown rfl
  · exact uniform

theorem sane_onHub (sane : hub.Sane) (use : Use clones) : (use.onHub hub).Sane := by
  unfold onHub
  split
  · exact sane.write ..
  · exact sane.subscribe ..
  · exact sane.keeps (sane.moves_next ..).1.toKeeps
  · exact sane.keeps (Hub.moves_drop ..).toKeeps
  · exact sane.keeps hub.keeps_shutdown
  · exact sane

/-- What others do changes what a reader sees as far as it meets the reader's channel. -/
theorem view?_onHub (sane : hub.Sane) {view : View} (sees : hub.view? k reader = some view)
    {use : Use clones} (notNext : use ≠ .next (.hub 0 k reader))
    (notDrop : use ≠ .drop (.hub 0 k reader)) :
    (use.onHub hub).view? k reader = some (view.meets use) := by
  cases use with
  | write bus channel message => exact Hub.view?_write sane sees ..
  | subscribe bus channel => exact Hub.view?_subscribe_other sees rfl
  | next stream =>
    rcases stream with ⟨_ | _, j, other⟩ | _
    · obtain ⟨moves, others⟩ := sane.moves_next j other
      exact Hub.view?_moves moves (others k reader fun same => notNext (by cases same; rfl)) sees
    · exact sees
    · exact sees
  | drop stream =>
    rcases stream with ⟨_ | _, j, other⟩ | _
    · refine Hub.view?_moves (Hub.moves_drop hub j other) ?_ sees
      exact hub.position?_drop j other k reader fun same => notDrop (by cases same; rfl)
    · exact sees
    · exact sees
  | shutdown bus =>
    rw [onHub, Hub.view?_shutdown, sees]
    rfl

end Use

end Fanout
