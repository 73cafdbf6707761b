import Fanout.Bus.Hub
import Fanout.Proofs.Bus.Channel
import Fanout.Proofs.Lists

/-! A hub against the numbers stored in each of its channels. At most one channel of a name is open,
so that a write reaches every reader of that name whose channel is open; no operation moves a reader
but its own. -/

namespace Fanout.Hub

variable {hub : Hub} {name : String} {k : Nat}

/-- How far a reader has come. -/
def position? (hub : Hub) (k reader : Nat) : Option Nat :=
  (hub.channels[k]?).bind (·.position? reader)

/-- How many messages were stored in a channel. -/
def written (hub : Hub) (k : Nat) : Nat := ((hub.channels[k]?).map (·.written)).getD 0

theorem find?_eq_some (h : hub.find? name = some k) :
    ∃ c, hub.channels[k]? = some c ∧ c.isOpen = true ∧ c.name = name := by
  obtain ⟨inside, here, _⟩ := List.findIdx?_eq_some_iff_getElem.mp h
  simp only [Bool.and_eq_true, beq_iff_eq] at here
  exact ⟨hub.channels[k], List.getElem?_eq_getElem inside, here⟩

theorem find?_eq_none (h : hub.find? name = none) {c : Channel} (member : c ∈ hub.channels) :
    ¬ (c.isOpen = true ∧ c.name = name) := by
  have all := List.findIdx?_eq_none_iff.mp h c member
  simpa using all

/-! ## The channels of a name -/

theorem channel_of_find? (h : hub.find? name = some k) : hub.channel name = (hub, k) := by
  simp only [channel, h]

theorem channel_of_none (h : hub.find? name = none) :
    hub.channel name = ({ hub with channels := hub.channels ++ [.new name hub.capacity] },
      hub.channels.length) := by
  simp only [channel, h]

/-- The channel of a name is open, and only an empty one is made for it. -/
theorem channel_spec (hub : Hub) (name : String) :
    ∃ c, (hub.channel name).1.channels[(hub.channel name).2]? = some c ∧ c.isOpen = true ∧
      c.name = name := by
  cases found : hub.find? name with
  | some k =>
    rw [channel_of_find? found]
    exact find?_eq_some found
  | none =>
    rw [channel_of_none found]
    exact ⟨.new name hub.capacity, by simp, rfl, rfl⟩

/-- One channel at most is added, empty and with a name that is free. -/
theorem getElem?_channel (hub : Hub) (name : String) (k : Nat) :
    (hub.channel name).1.channels[k]? = hub.channels[k]? ∨
      (k = hub.channels.length ∧
        (hub.channel name).1.channels[k]? = some (.new name hub.capacity) ∧
        ∀ c ∈ hub.channels, ¬ (c.isOpen = true ∧ c.name = name)) := by
  cases found : hub.find? name with
  | some j =>
    rw [channel_of_find? found]
    exact .inl rfl
  | none =>
    rw [channel_of_none found]
    by_cases new : k = hub.channels.length
    · exact .inr ⟨new, by simp [new], fun c member => find?_eq_none found member⟩
    · refine .inl ?_
      simp only [List.getElem?_append]
      split
      · rfl
      · rw [List.getElem?_eq_none (by simp; omega), List.getElem?_eq_none (by omega)]

theorem getElem?_channel_of_some {c : Channel} (name : String) (here : hub.channels[k]? = some c) :
    (hub.channel name).1.channels[k]? = some c := by
  rcases getElem?_channel hub name k with kept | ⟨atEnd, _, _⟩
  · exact kept.trans here
  · rw [atEnd, List.getElem?_eq_none (Nat.le_refl _)] at here
    contradiction

@[simp] theorem written_channel (hub : Hub) (name : String) (k : Nat) :
    (hub.channel name).1.written k = hub.written k := by
  rcases getElem?_channel hub name k with same | ⟨rfl, new, _⟩
  · simp only [written, same]
  · simp [written, new, Channel.new]

@[simp] theorem position?_channel (hub : Hub) (name : String) (k reader : Nat) :
    (hub.channel name).1.position? k reader = hub.position? k reader := by
  rcases getElem?_channel hub name k with same | ⟨rfl, new, _⟩
  · simp only [position?, same]
  · simp [position?, new, Channel.new, Channel.position?]

/-! ## What is stored -/

/-- The channels hold these numbers, and open ones have different names. -/
structure Logs (hub : Hub) (stored : Nat → List Nat) (content : String → Nat → Option Bytes) :
    Prop where
  holds : ∀ (k : Nat) (c : Channel), hub.channels[k]? = some c → c.Holds (stored k) (content c.name)
  absent : ∀ k : Nat, hub.channels[k]? = none → stored k = []
  unique : ∀ (j k : Nat) (c d : Channel), hub.channels[j]? = some c → hub.channels[k]? = some d →
    c.isOpen = true → d.isOpen = true → c.name = d.name → j = k

variable {stored : Nat → List Nat} {content : String → Nat → Option Bytes}

theorem logs_new (capacity : Nat) (content : String → Nat → Option Bytes) :
    (Hub.new capacity).Logs (fun _ => []) content := by
  constructor <;> simp [Hub.new]

theorem Logs.congr (logs : hub.Logs stored content) {content' : String → Nat → Option Bytes}
    (same : ∀ (k : Nat) (c : Channel), hub.channels[k]? = some c → ∀ n ∈ stored k,
      content' c.name n = content c.name n) : hub.Logs stored content' :=
  ⟨fun k c here => (logs.holds k c here).congr (same k c here), logs.absent, logs.unique⟩

theorem Logs.channel (logs : hub.Logs stored content) (name : String) :
    (hub.channel name).1.Logs stored content := by
  constructor
  case holds =>
    intro k c here
    rcases getElem?_channel hub name k with kept | ⟨rfl, new, _⟩
    · exact logs.holds k c (kept ▸ here)
    · cases new.symm.trans here
      rw [logs.absent _ (List.getElem?_eq_none (Nat.le_refl _))]
      exact Channel.holds_new ..
  case absent =>
    intro k absent
    rcases getElem?_channel hub name k with kept | ⟨_, new, _⟩
    · exact logs.absent k (kept ▸ absent)
    · simp [new] at absent
  case unique =>
    intro j k c d first second isOpen isOpen' same
    rcases getElem?_channel hub name j with kept | ⟨atEnd, new, free⟩
    · rw [kept] at first
      rcases getElem?_channel hub name k with kept' | ⟨_, new', free⟩
      · exact logs.unique j k c d first (kept' ▸ second) isOpen isOpen' same
      · cases new'.symm.trans second
        exact absurd ⟨isOpen, same⟩ (free c (List.mem_of_getElem? first))
    · cases new.symm.trans first
      rcases getElem?_channel hub name k with kept' | ⟨atEnd', _, _⟩
      · rw [kept'] at second
        exact absurd ⟨isOpen', same.symm⟩ (free d (List.mem_of_getElem? second))
      · rw [atEnd, atEnd']

/-- Only readers have moved between the two states, or channels have been closed. -/
structure Keeps (hub after : Hub) : Prop where
  length : after.channels.length = hub.channels.length
  channel : ∀ (k : Nat) (c d : Channel), hub.channels[k]? = some c → after.channels[k]? = some d →
    c.Keeps d

/-- Only readers have moved between the two states. -/
structure Moves (hub after : Hub) : Prop extends hub.Keeps after where
  isOpen : ∀ (k : Nat) (c d : Channel), hub.channels[k]? = some c → after.channels[k]? = some d →
    d.isOpen = c.isOpen

theorem Keeps.before {after : Hub} (keeps : hub.Keeps after) {d : Channel}
    (here : after.channels[k]? = some d) : ∃ c, hub.channels[k]? = some c ∧ c.Keeps d := by
  obtain ⟨c, before⟩ := exists_getElem? (Nat.le_of_eq keeps.length) here
  exact ⟨c, before, keeps.channel k c d before here⟩

theorem Moves.after {after : Hub} (moves : hub.Moves after) {c : Channel}
    (here : hub.channels[k]? = some c) :
    ∃ d, after.channels[k]? = some d ∧ d.name = c.name ∧ d.isOpen = c.isOpen := by
  obtain ⟨d, behind⟩ := exists_getElem? (Nat.le_of_eq moves.length.symm) here
  exact ⟨d, behind, (moves.channel k c d here behind).name, moves.isOpen k c d here behind⟩

theorem Keeps.written {after : Hub} (keeps : hub.Keeps after) (k : Nat) :
    after.written k = hub.written k := by
  unfold Hub.written
  cases here : after.channels[k]? with
  | none =>
    have absent : hub.channels[k]? = none := by
      simpa [keeps.length] using here
    rw [absent]
  | some d =>
    obtain ⟨c, here', same⟩ := keeps.before here
    simp [here', same.written]

theorem Logs.keeps (logs : hub.Logs stored content) {after : Hub} (keeps : hub.Keeps after) :
    after.Logs stored content := by
  constructor
  case holds =>
    intro k d here
    obtain ⟨c, here', same⟩ := keeps.before here
    rw [same.name]
    exact (logs.holds k c here').keeps same
  case absent =>
    intro k absent
    apply logs.absent
    simpa [keeps.length] using absent
  case unique =>
    intro j k c d first second isOpen isOpen' same
    obtain ⟨c', first', kept⟩ := keeps.before first
    obtain ⟨d', second', kept'⟩ := keeps.before second
    exact logs.unique j k c' d' first' second' (kept.isOpen isOpen) (kept'.isOpen isOpen')
      (kept.name.symm.trans (same.trans kept'.name))

theorem keeps_set {c d : Channel} (here : hub.channels[k]? = some c) (keeps : c.Keeps d) :
    hub.Keeps { hub with channels := hub.channels.set k d } := by
  constructor
  case length => exact List.length_set
  case channel =>
    intro j c' d' first second
    rcases getElem?_set_cases second with ⟨rfl, rfl⟩ | ⟨_, second⟩
    · cases here.symm.trans first
      exact keeps
    · cases first.symm.trans second
      exact .refl c'

theorem moves_set {c d : Channel} (here : hub.channels[k]? = some c) (keeps : c.Keeps d)
    (isOpen : d.isOpen = c.isOpen) :
    hub.Moves { hub with channels := hub.channels.set k d } := by
  refine ⟨keeps_set here keeps, ?_⟩
  intro j c' d' first second
  rcases getElem?_set_cases second with ⟨rfl, rfl⟩ | ⟨_, second⟩
  · cases here.symm.trans first
    exact isOpen
  · cases first.symm.trans second
    rfl

theorem position?_set {c d : Channel} (here : hub.channels[k]? = some c) (j reader : Nat) :
    ({ hub with channels := hub.channels.set k d } : Hub).position? j reader
      = if j = k then d.position? reader else hub.position? j reader := by
  have inside := (List.getElem?_eq_some_iff.mp here).1
  simp only [position?, List.getElem?_set]
  by_cases same : k = j
  · simp [same, same ▸ inside]
  · simp [same, Ne.symm same]

/-! ## Subscribing -/

/-- A new reader stands behind everything that was written to the open channel of its name. -/
theorem subscribe_spec (hub : Hub) (name : String) :
    ∃ after k reader c, hub.subscribe name = (after, k, reader) ∧
      (hub.channel name).1.Moves after ∧
      after.channels[k]? = some c ∧ c.isOpen = true ∧ c.name = name ∧
      after.position? k reader = some c.written ∧ hub.position? k reader = none ∧
      ∀ j other, (j, other) ≠ (k, reader) → after.position? j other = hub.position? j other := by
  obtain ⟨c, here, isOpen, named⟩ := channel_spec hub name
  have positions := position?_channel hub name
  generalize grown : hub.channel name = pair at here positions
  obtain ⟨grown', k⟩ := pair
  simp only at here positions
  have inside := (List.getElem?_eq_some_iff.mp here).1
  refine ⟨{ grown' with channels := grown'.channels.set k c.subscribe.1 }, k, c.readers.length,
    c.subscribe.1, ?_, moves_set here c.keeps_subscribe rfl, ?_, isOpen, named, ?_, ?_, ?_⟩
  · simp only [subscribe, grown, here]
    rfl
  · simp [inside]
  · rw [position?_set here, if_pos rfl, Channel.position?_subscribe, if_pos rfl]
    rfl
  · rw [← positions, position?, here]
    simp [Channel.position?]
  · intro j other different
    rw [position?_set here, Channel.position?_subscribe, ← positions]
    split
    · rename_i same
      subst same
      rw [if_neg fun same => different (by rw [same]), position?, here]
      rfl
    · rfl

/-! ## Reading -/

theorem position?_spec {reader position : Nat} (at? : hub.position? k reader = some position) :
    ∃ c, hub.channels[k]? = some c ∧ c.position? reader = some position :=
  Option.bind_eq_some_iff.mp at?

/-- A reader finds what it has still to come, and moves no other reader. -/
theorem Logs.next (logs : hub.Logs stored content) {reader position : Nat}
    (at? : hub.position? k reader = some position) :
    ∃ c moved, hub.channels[k]? = some c ∧
      c.Reads (content c.name) ((stored k).drop position) (hub.next k reader).2 moved ∧
      hub.Moves (hub.next k reader).1 ∧
      ∀ j other, (hub.next k reader).1.position? j other
        = if j = k ∧ other = reader then some (position + moved) else hub.position? j other := by
  obtain ⟨c, here, reached⟩ := position?_spec at?
  have holds := logs.holds k c here
  obtain ⟨moved, reads, after⟩ := holds.next reached
  have bound := reads.bound
  have inside := holds.positions reader position reached
  rw [List.length_drop, ← holds.written] at bound
  have next : hub.next k reader
      = ({ hub with channels := hub.channels.set k (c.next reader).1 }, (c.next reader).2) := by
    simp only [Hub.next, here]
  rw [next, after]
  refine ⟨c, moved, here, reads, ?_, ?_⟩
  · apply moves_set here (Channel.keeps_setPosition ?_) rfl
    intro p member
    cases member
    omega
  · intro j other
    rw [position?_set here, Channel.position?_setPosition]
    by_cases same : j = k
    · subst same
      simp only [true_and, if_true, Channel.lt_of_position? reached, and_true, position?, here,
        Option.bind_some]
    · simp only [same, false_and, if_false]

/-! ## Leaving and ending -/

theorem moves_drop (hub : Hub) (k reader : Nat) : hub.Moves (hub.drop k reader) := by
  have channel (j : Nat) (c d : Channel) (first : hub.channels[j]? = some c)
      (second : (hub.drop k reader).channels[j]? = some d) : d = c.drop reader ∨ d = c := by
    simp only [drop, List.getElem?_modify, first, Option.map_eq_map, Option.map_some,
      Option.some.injEq] at second
    subst second
    split
    · exact .inl rfl
    · exact .inr rfl
  constructor
  case toKeeps =>
    refine ⟨by simp [drop], ?_⟩
    intro j c d first second
    rcases channel j c d first second with rfl | rfl
    · exact c.keeps_drop reader
    · exact .refl _
  case isOpen =>
    intro j c d first second
    rcases channel j c d first second with rfl | rfl <;> rfl

theorem Keeps.refl (hub : Hub) : hub.Keeps hub := by
  refine ⟨rfl, ?_⟩
  intro k c d first second
  cases first.symm.trans second
  exact .refl c

theorem Keeps.trans {after last : Hub} (first : hub.Keeps after) (second : after.Keeps last) :
    hub.Keeps last := by
  refine ⟨second.length.trans first.length, ?_⟩
  intro k c e here there
  obtain ⟨d, middle⟩ := exists_getElem? (Nat.le_of_eq first.length.symm) here
  exact (first.channel k c d here middle).trans (second.channel k d e middle there)

theorem Moves.refl (hub : Hub) : hub.Moves hub := by
  constructor
  case toKeeps => exact .refl hub
  case isOpen =>
    intro k c d first second
    cases first.symm.trans second
    rfl

theorem Moves.trans {after last : Hub} (first : hub.Moves after) (second : after.Moves last) :
    hub.Moves last := by
  constructor
  case toKeeps => exact first.toKeeps.trans second.toKeeps
  case isOpen =>
    intro k c e here there
    obtain ⟨d, middle⟩ := exists_getElem? (Nat.le_of_eq first.length.symm) here
    exact (second.isOpen k d e middle there).trans (first.isOpen k c d here middle)

theorem position?_drop (hub : Hub) (k reader j other : Nat) (different : (j, other) ≠ (k, reader)) :
    (hub.drop k reader).position? j other = hub.position? j other := by
  simp only [position?, drop, List.getElem?_modify]
  cases hub.channels[j]? with
  | none => rfl
  | some c =>
    by_cases same : k = j
    · subst same
      have away : other ≠ reader := fun equal => different (by rw [equal])
      simp [Channel.drop, Channel.position?_setPosition, away]
    · simp [same]

theorem keeps_shutdown (hub : Hub) : hub.Keeps hub.shutdown := by
  constructor
  case length => simp [shutdown]
  case channel =>
    intro j c d first second
    simp only [shutdown, List.getElem?_map, first, Option.map_some, Option.some.injEq] at second
    subst second
    exact c.keeps_close

theorem position?_shutdown (hub : Hub) (k reader : Nat) :
    hub.shutdown.position? k reader = hub.position? k reader := by
  simp only [position?, shutdown, List.getElem?_map]
  cases hub.channels[k]? <;> rfl

/-! ## Writing -/

theorem getElem?_write (hub : Hub) (name : String) (message : Bytes) (k : Nat) :
    (hub.write name message).1.channels[k]?
      = ((hub.channel name).1.channels[k]?).map fun c =>
        if (hub.channel name).2 = k then c.write message else c := by
  simp only [write, List.getElem?_modify, Option.map_eq_map]

@[simp] theorem position?_write (hub : Hub) (name : String) (message : Bytes) (k reader : Nat) :
    (hub.write name message).1.position? k reader = hub.position? k reader := by
  rw [← position?_channel hub name, position?, position?, getElem?_write]
  cases (hub.channel name).1.channels[k]? with
  | none => rfl
  | some c =>
    simp only [Option.map_some, Option.bind_some]
    split <;> simp

theorem before_write {message : Bytes} {d : Channel}
    (here : (hub.write name message).1.channels[k]? = some d) :
    ∃ c, (hub.channel name).1.channels[k]? = some c ∧
      d = if (hub.channel name).2 = k then c.write message else c := by
  rw [getElem?_write, Option.map_eq_some_iff] at here
  obtain ⟨c, here, same⟩ := here
  exact ⟨c, here, same.symm⟩

theorem getElem?_write_of_some {c : Channel} (name : String) (message : Bytes)
    (here : hub.channels[k]? = some c) :
    ∃ d, (hub.write name message).1.channels[k]? = some d ∧ d.name = c.name ∧
      d.isOpen = c.isOpen := by
  rw [getElem?_write, getElem?_channel_of_some name here]
  refine ⟨_, rfl, ?_, ?_⟩
  · split <;> simp
  · split <;> simp

/-- A write adds one message at most to a channel, and to none of another name. -/
theorem written_write_cases (hub : Hub) (name : String) (message : Bytes) (k : Nat) :
    (hub.write name message).1.written k = hub.written k ∨
      ((hub.write name message).1.written k = hub.written k + 1 ∧
        ∃ d, (hub.write name message).1.channels[k]? = some d ∧ d.name = name) := by
  rw [← written_channel hub name, written, written, getElem?_write]
  obtain ⟨c, found, _, named⟩ := channel_spec hub name
  by_cases target : (hub.channel name).2 = k
  · subst target
    simp only [found, Option.map_some, Option.getD_some, if_pos, Channel.written_write]
    split
    · exact .inl rfl
    · exact .inr ⟨rfl, _, rfl, (Channel.name_write message).trans named⟩
  · simp [if_neg target]

/-- The channel of a name is the open one that has it. -/
theorem Logs.channel_snd (logs : hub.Logs stored content) {c : Channel}
    (here : hub.channels[k]? = some c) :
    (hub.channel name).2 = k ↔ c.isOpen = true ∧ c.name = name := by
  constructor
  · intro same
    obtain ⟨d, found, isOpen, named⟩ := channel_spec hub name
    rw [same] at found
    cases (getElem?_channel_of_some name here).symm.trans found
    exact ⟨isOpen, named⟩
  · rintro ⟨isOpen, named⟩
    cases found : hub.find? name with
    | none => exact absurd ⟨isOpen, named⟩ (find?_eq_none found (List.mem_of_getElem? here))
    | some j =>
      obtain ⟨d, there, isOpen', named'⟩ := find?_eq_some found
      rw [channel_of_find? found]
      exact logs.unique j k d c there here isOpen' isOpen (named'.trans named.symm)

/-- A message is stored where the open channel of the name has a reader, and nowhere else. -/
theorem Logs.written_write (logs : hub.Logs stored content) (name : String) {c : Channel}
    (here : hub.channels[k]? = some c) (message : Bytes) :
    (hub.write name message).1.written k = hub.written k
      + if (c.isOpen = true ∧ c.name = name) ∧ c.receivers ≠ 0 then 1 else 0 := by
  have grown := getElem?_channel_of_some name here
  have target : (hub.channel name).2 = k ↔ c.isOpen = true ∧ c.name = name :=
    logs.channel_snd here
  rw [written, written, getElem?_write, grown, here]
  simp only [Option.map_some, Option.getD_some]
  by_cases this : (hub.channel name).2 = k
  · rw [if_pos this, Channel.written_write]
    by_cases heard : c.receivers = 0 <;> simp [heard, target.mp this]
  · rw [if_neg this, if_neg fun both => this (target.mpr both.1), Nat.add_zero]

/-- The numbers stored in each channel once a write was made under the number given. -/
def storedAfter (hub : Hub) (stored : Nat → List Nat) (after : Hub) (number k : Nat) : List Nat :=
  stored k ++ List.replicate (after.written k - hub.written k) number

theorem Logs.holds_write (logs : hub.Logs stored content) {number : Nat} {message : Bytes}
    (known : content name number = some message) {d : Channel}
    (here : (hub.write name message).1.channels[k]? = some d) :
    d.Holds (hub.storedAfter stored (hub.write name message).1 number k) (content d.name) := by
  have after : (hub.write name message).1.written k = d.written := by
    rw [Hub.written, here]
    rfl
  obtain ⟨c, before, rfl⟩ := before_write here
  have holds := (logs.channel name).holds k c before
  have written : hub.written k = c.written := by
    rw [← written_channel hub name, Hub.written, before]
    rfl
  rw [storedAfter, written, after]
  split
  · rename_i target
    rw [Channel.written_write]
    by_cases heard : c.receivers = 0
    · simpa [heard, Channel.write] using holds
    · have named : c.name = name := by
        obtain ⟨c', found, _, named⟩ := channel_spec hub name
        rw [target] at found
        cases before.symm.trans found
        exact named
      simpa [heard] using holds.write (named ▸ known) heard
  · simpa using holds

theorem Logs.write (logs : hub.Logs stored content) {number : Nat} {message : Bytes}
    (known : content name number = some message) :
    (hub.write name message).1.Logs
      (hub.storedAfter stored (hub.write name message).1 number) content := by
  have grown := logs.channel name
  constructor
  case holds =>
    intro k d here
    exact logs.holds_write known here
  case absent =>
    intro k absent
    have absent' : (hub.channel name).1.channels[k]? = none := by
      simpa [getElem?_write] using absent
    simp [storedAfter, Hub.written, absent, grown.absent k absent']
  case unique =>
    intro j k c d first second isOpen isOpen' same
    obtain ⟨c, first', rfl⟩ := before_write first
    obtain ⟨d, second', rfl⟩ := before_write second
    apply grown.unique j k c d first' second'
    · split at isOpen <;> simpa using isOpen
    · split at isOpen' <;> simpa using isOpen'
    · split at same <;> split at same <;> simpa using same

end Fanout.Hub
