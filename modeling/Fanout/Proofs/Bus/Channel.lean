import Fanout.Bus.Channel

/-! A channel against the list of everything that was ever stored in it, each entry a number with
its content. What a reader has still to come is then a suffix of that list: a step of the reader
takes its head, or, where that is no longer kept, gives up as many entries as are lost. -/

namespace Fanout.Channel

variable {channel : Channel} {numbers : List Nat} {content : Nat → Option Bytes}
  {reader position : Nat}

/-- The channel holds what these numbers stand for, as far as it goes back. -/
structure Holds (channel : Channel) (numbers : List Nat) (content : Nat → Option Bytes) : Prop where
  capacity_pos : 0 < channel.capacity
  written : channel.written = numbers.length
  kept : channel.kept.map some
    = (numbers.drop (numbers.length - channel.capacity)).map content
  positions : ∀ reader position, channel.position? reader = some position →
    position ≤ channel.written

theorem Holds.kept_length (holds : channel.Holds numbers content) :
    channel.kept.length = min numbers.length channel.capacity := by
  have lengths := congrArg List.length holds.kept
  simp only [List.length_map, List.length_drop] at lengths
  omega

theorem Holds.congr (holds : channel.Holds numbers content) {content' : Nat → Option Bytes}
    (same : ∀ n ∈ numbers, content' n = content n) : channel.Holds numbers content' := by
  refine ⟨holds.capacity_pos, holds.written, holds.kept.trans ?_, holds.positions⟩
  exact List.map_congr_left fun n member => (same n (List.mem_of_mem_drop member)).symm

theorem holds_new (name : String) (capacity : Nat) (content : Nat → Option Bytes) :
    (Channel.new name capacity).Holds [] content := by
  constructor
  case capacity_pos =>
    obtain ⟨k, power⟩ := Nat.isPowerOfTwo_nextPowerOfTwo (max capacity 1)
    simp only [new, power]
    exact Nat.two_pow_pos k
  case written => rfl
  case kept => simp [new]
  case positions => simp [new, position?]

/-! ## Writing -/

theorem receivers_pos (h : channel.position? reader = some position) : channel.receivers ≠ 0 := by
  unfold position? at h
  cases found : channel.readers[reader]? with
  | none => simp [found] at h
  | some p =>
    simp only [found, Option.join_some] at h
    refine Nat.ne_of_gt (List.countP_pos_iff.mpr ⟨p, List.mem_of_getElem? found, ?_⟩)
    rw [h, Option.isSome_some]

theorem Holds.write (holds : channel.Holds numbers content) {number : Nat} {message : Bytes}
    (known : content number = some message) (heard : channel.receivers ≠ 0) :
    (channel.write message).Holds (numbers ++ [number]) content := by
  have length := holds.kept_length
  rw [Channel.write, if_neg heard]
  constructor
  case capacity_pos => exact holds.capacity_pos
  case written => simp [holds.written]
  case kept =>
    have all : (channel.kept ++ [message]).map some
        = ((numbers ++ [number]).drop (numbers.length - channel.capacity)).map content := by
      rw [List.drop_append_of_le_length (Nat.sub_le ..)]
      simp [holds.kept, known]
    have dropped : numbers.length - channel.capacity
        + ((channel.kept ++ [message]).length - channel.capacity)
        = (numbers ++ [number]).length - channel.capacity := by
      simp only [List.length_append, List.length_singleton, length]
      omega
    rw [List.map_drop, all, ← List.map_drop, List.drop_drop, dropped]
  case positions =>
    intro reader position at?
    exact Nat.le_succ_of_le (holds.positions reader position at?)

@[simp] theorem position?_write (message : Bytes) :
    (channel.write message).position? reader = channel.position? reader := by
  unfold Channel.write
  split <;> rfl

@[simp] theorem name_write (message : Bytes) : (channel.write message).name = channel.name := by
  unfold Channel.write
  split <;> rfl

@[simp] theorem isOpen_write (message : Bytes) :
    (channel.write message).isOpen = channel.isOpen := by
  unfold Channel.write
  split <;> rfl

theorem written_write (message : Bytes) :
    (channel.write message).written
      = channel.written + if channel.receivers = 0 then 0 else 1 := by
  unfold Channel.write
  split <;> rfl

/-! ## Readers -/

/-- Nothing was stored or lost between the two states, and nothing was opened. -/
structure Keeps (channel after : Channel) : Prop where
  name : after.name = channel.name
  capacity : after.capacity = channel.capacity
  written : after.written = channel.written
  kept : after.kept = channel.kept
  isOpen : after.isOpen = true → channel.isOpen = true
  positions : (∀ reader position, channel.position? reader = some position →
    position ≤ channel.written) → ∀ reader position, after.position? reader = some position →
      position ≤ channel.written

theorem Holds.keeps (holds : channel.Holds numbers content) {after : Channel}
    (keeps : channel.Keeps after) : after.Holds numbers content := by
  constructor
  case capacity_pos => exact keeps.capacity ▸ holds.capacity_pos
  case written => exact keeps.written.trans holds.written
  case kept => rw [keeps.kept, keeps.capacity, holds.kept]
  case positions =>
    rw [keeps.written]
    exact keeps.positions holds.positions

theorem Keeps.refl (channel : Channel) : channel.Keeps channel :=
  ⟨rfl, rfl, rfl, rfl, id, id⟩

theorem Keeps.trans {after last : Channel} (first : channel.Keeps after)
    (second : after.Keeps last) : channel.Keeps last := by
  constructor
  case name => exact second.name.trans first.name
  case capacity => exact second.capacity.trans first.capacity
  case written => exact second.written.trans first.written
  case kept => exact second.kept.trans first.kept
  case isOpen => exact fun isOpen => first.isOpen (second.isOpen isOpen)
  case positions =>
    intro bounds
    rw [← first.written]
    apply second.positions
    rw [first.written]
    exact first.positions bounds

theorem keeps_close (channel : Channel) : channel.Keeps channel.close :=
  ⟨rfl, rfl, rfl, rfl, by simp [close], id⟩

theorem position?_setPosition (channel : Channel) (reader other : Nat) (position : Option Nat) :
    (channel.setPosition reader position).position? other
      = if other = reader ∧ reader < channel.readers.length then position
        else channel.position? other := by
  simp only [setPosition, position?, List.getElem?_set]
  by_cases same : reader = other
  · subst same
    by_cases inside : reader < channel.readers.length
    · simp [inside]
    · simp [inside]
  · simp [same, Ne.symm same]

theorem lt_of_position? (h : channel.position? reader = some position) :
    reader < channel.readers.length := by
  unfold position? at h
  by_cases inside : reader < channel.readers.length
  · exact inside
  · simp [List.getElem?_eq_none (Nat.le_of_not_lt inside)] at h

theorem keeps_setPosition {position : Option Nat}
    (bound : ∀ p ∈ position, p ≤ channel.written) :
    channel.Keeps (channel.setPosition reader position) := by
  refine ⟨rfl, rfl, rfl, rfl, id, fun bounds other p at? => ?_⟩
  rw [position?_setPosition] at at?
  split at at?
  · exact bound p at?
  · exact bounds other p at?

theorem keeps_drop (channel : Channel) (reader : Nat) : channel.Keeps (channel.drop reader) :=
  keeps_setPosition (by simp)

theorem position?_subscribe (channel : Channel) (reader : Nat) :
    channel.subscribe.1.position? reader
      = if reader = channel.readers.length then some channel.written
        else channel.position? reader := by
  simp only [subscribe, position?]
  by_cases before : reader < channel.readers.length
  · rw [List.getElem?_append_left before, if_neg (Nat.ne_of_lt before)]
  · rw [List.getElem?_append_right (Nat.le_of_not_lt before)]
    by_cases new : reader = channel.readers.length
    · simp [new]
    · have beyond : reader - channel.readers.length ≠ 0 := by omega
      rw [if_neg new, List.getElem?_eq_none (Nat.le_of_not_lt before),
        List.getElem?_eq_none (by simp; omega)]

theorem keeps_subscribe (channel : Channel) : channel.Keeps channel.subscribe.1 := by
  refine ⟨rfl, rfl, rfl, rfl, id, fun bounds reader position at? => ?_⟩
  rw [position?_subscribe] at at?
  split at at?
  · cases at?
    exact Nat.le_refl _
  · exact bounds reader position at?

/-! ## Reading -/

/-- What a reader finds in front of what it has still to come, and how far it moves. -/
inductive Reads (channel : Channel) (content : Nat → Option Bytes) :
    List Nat → Next → Nat → Prop where
  | nothing : Reads channel content [] (if channel.isOpen then .pending else .ended) 0
  | message {number : Nat} {rest : List Nat} {message : Bytes} :
      content number = some message → rest.length < channel.capacity →
      Reads channel content (number :: rest) (.item (.message message)) 1
  | lagged {pending : List Nat} {lost : Nat} : pending.length = lost + channel.capacity →
      0 < lost → Reads channel content pending (.item (.lagged lost)) lost

theorem Reads.bound {pending : List Nat} {next : Next} {moved : Nat}
    (reads : channel.Reads content pending next moved) : moved ≤ pending.length := by
  cases reads with
  | nothing => exact Nat.zero_le _
  | message => simp
  | lagged length _ => omega

theorem setPosition_self (at? : channel.position? reader = some position) :
    channel.setPosition reader (some position) = channel := by
  have inside := lt_of_position? at?
  have here : channel.readers[reader] = some position := by
    rw [position?, List.getElem?_eq_getElem inside] at at?
    exact at?
  rw [setPosition, ← here, List.set_getElem_self]

theorem Holds.next (holds : channel.Holds numbers content)
    (at? : channel.position? reader = some position) :
    ∃ moved, channel.Reads content (numbers.drop position) (channel.next reader).2 moved ∧
      (channel.next reader).1 = channel.setPosition reader (some (position + moved)) := by
  have length := holds.kept_length
  have bound := holds.positions reader position at?
  have written := holds.written
  simp only [Channel.next, at?]
  split
  · rename_i behind
    have oldest : channel.written - channel.kept.length
        = position + (channel.written - channel.capacity - position) := by omega
    have lost : channel.written - channel.kept.length - position
        = channel.written - channel.capacity - position := by omega
    rw [lost, oldest]
    refine ⟨_, .lagged ?_ (by omega), rfl⟩
    rw [List.length_drop]
    omega
  · rename_i notBehind
    have index : channel.kept.length - (channel.written - position)
        = position - (numbers.length - channel.capacity) := by omega
    have place : numbers.length - channel.capacity
        + (position - (numbers.length - channel.capacity)) = position := by omega
    have found : (channel.kept[channel.kept.length - (channel.written - position)]?).map some
        = (numbers[position]?).map content := by
      rw [← List.getElem?_map, holds.kept, List.getElem?_map, List.getElem?_drop, index, place]
    by_cases empty : numbers.length ≤ position
    · have none : channel.kept[channel.kept.length - (channel.written - position)]? = none := by
        rw [List.getElem?_eq_none empty] at found
        simpa using found
      rw [none, List.drop_eq_nil_of_le empty]
      exact ⟨0, .nothing, (setPosition_self at?).symm⟩
    · have inside : position < numbers.length := Nat.lt_of_not_le empty
      rw [List.getElem?_eq_getElem inside, Option.map_some, Option.map_eq_some_iff] at found
      obtain ⟨message, here, known⟩ := found
      rw [here, List.drop_eq_getElem_cons inside]
      refine ⟨1, .message known.symm ?_, rfl⟩
      rw [List.length_drop]
      omega

end Fanout.Channel
