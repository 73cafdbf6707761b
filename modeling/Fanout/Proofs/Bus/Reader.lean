import Fanout.Bus.Fabric
import Fanout.Proofs.Bus.Hub

/-! Readers of a hub, one at a time: how much each of them has still to come to. A write adds one
message for the readers of its channel, and nobody but the reader itself makes that less. -/

namespace Fanout

/-- The item that was found, if any. -/
def Next.item? : Next → Option BusItem
  | .item found => some found
  | .pending | .ended => none

/-- How many messages a reader is past with what it found. -/
def Next.covers : Next → Nat
  | .item (.message _) => 1
  | .item (.lagged lost) => lost
  | .pending | .ended => 0

namespace Hub

variable {hub after : Hub} {k reader : Nat} {name : String} {isOpen : Bool} {unread : Nat}

/-- The hub holds some log of messages. -/
def Sane (hub : Hub) : Prop :=
  ∃ stored content bound, hub.Logs stored content ∧ ∀ k n, n ∈ stored k → n < bound

/-- The reader is at a channel of this name and has so many messages to come to. -/
def Sees (hub : Hub) (k reader : Nat) (name : String) (isOpen : Bool) (unread : Nat) : Prop :=
  ∃ channel position, hub.channels[k]? = some channel ∧ channel.name = name ∧
    channel.isOpen = isOpen ∧ hub.position? k reader = some position ∧
    position + unread = channel.written

/-! ## Sanity -/

theorem sane_new (capacity : Nat) : (new capacity).Sane :=
  ⟨fun _ => [], fun _ _ => none, 0, logs_new capacity _, by simp⟩

theorem Sane.keeps (sane : hub.Sane) (keeps : hub.Keeps after) : after.Sane := by
  obtain ⟨stored, content, bound, logs, below⟩ := sane
  exact ⟨stored, content, bound, logs.keeps keeps, below⟩

theorem Sane.channel (sane : hub.Sane) (name : String) : (hub.channel name).1.Sane := by
  obtain ⟨stored, content, bound, logs, below⟩ := sane
  exact ⟨stored, content, bound, logs.channel name, below⟩

theorem Sane.subscribe (sane : hub.Sane) (name : String) : (hub.subscribe name).1.Sane := by
  obtain ⟨after, k, reader, _, opened, moves, _⟩ := hub.subscribe_spec name
  rw [opened]
  exact (sane.channel name).keeps moves.toKeeps

/-- The next message can be logged under a number that is not in use. -/
theorem Sane.write (sane : hub.Sane) (name : String) (message : Bytes) :
    (hub.write name message).1.Sane := by
  obtain ⟨stored, content, bound, logs, below⟩ := sane
  have free (k : Nat) (c : Channel) (_ : hub.channels[k]? = some c) (n : Nat)
      (member : n ∈ stored k) :
      (if n = bound then some message else content c.name n) = content c.name n :=
    if_neg (Nat.ne_of_lt (below k n member))
  have logs' : hub.Logs stored fun name n => if n = bound then some message else content name n :=
    logs.congr free
  have known : (if bound = bound then some message else content name bound) = some message :=
    if_pos rfl
  refine ⟨_, _, bound + 1, logs'.write known, ?_⟩
  intro k n member
  rcases List.mem_append.mp member with old | new
  · exact Nat.lt_succ_of_lt (below k n old)
  · rw [(List.mem_replicate.mp new).2]
    exact Nat.lt_succ_self bound

/-! ## What a reader has to come to -/

theorem Sees.moves (sees : hub.Sees k reader name isOpen unread) (moves : hub.Moves after)
    (stays : after.position? k reader = hub.position? k reader) :
    after.Sees k reader name isOpen unread := by
  obtain ⟨channel, position, here, named, open', at?, left⟩ := sees
  obtain ⟨channel', here', named', same⟩ := moves.after here
  have written := (moves.channel k channel channel' here here').written
  exact ⟨channel', position, here', named'.trans named, same.trans open', stays.trans at?,
    left.trans written.symm⟩

theorem Sees.channel (sees : hub.Sees k reader name isOpen unread) (other : String) :
    (hub.channel other).1.Sees k reader name isOpen unread := by
  obtain ⟨channel, position, here, named, open', at?, left⟩ := sees
  exact ⟨channel, position, getElem?_channel_of_some other here, named, open',
    (hub.position?_channel ..).trans at?, left⟩

theorem Sees.shutdown (sees : hub.Sees k reader name isOpen unread) :
    hub.shutdown.Sees k reader name false unread := by
  obtain ⟨channel, position, here, named, _, at?, left⟩ := sees
  have closed : hub.shutdown.channels[k]? = some channel.close := by simp [Hub.shutdown, here]
  have stays := (hub.position?_shutdown k reader).trans at?
  exact ⟨channel.close, position, closed, named, rfl, stays, left⟩

theorem Sees.write (sees : hub.Sees k reader name isOpen unread) (sane : hub.Sane)
    (channel : String) (message : Bytes) :
    (hub.write channel message).1.Sees k reader name isOpen
      (unread + if isOpen = true ∧ channel = name then 1 else 0) := by
  obtain ⟨stored, content, _, logs, _⟩ := sane
  obtain ⟨c, position, here, named, open', at?, left⟩ := sees
  obtain ⟨d, here', named', same⟩ := getElem?_write_of_some channel message here
  have reached : c.position? reader = some position := by
    simpa only [Hub.position?, here, Option.bind_some] using at?
  have grown := logs.written_write channel here message
  rw [written, written, here', here] at grown
  simp only [Option.map_some, Option.getD_some, Channel.receivers_pos reached, ne_eq,
    not_false_eq_true, and_true, open', named] at grown
  refine ⟨d, position, here', named'.trans named, same.trans open',
    (hub.position?_write ..).trans at?, ?_⟩
  rw [grown, ← left, Nat.add_assoc]
  simp only [eq_comm]

/-- What a reader finds is less to come to. -/
theorem Sees.next (sees : hub.Sees k reader name isOpen unread) (sane : hub.Sane) :
    hub.Moves (hub.next k reader).1 ∧
    (∀ j other, (j, other) ≠ (k, reader) →
      (hub.next k reader).1.position? j other = hub.position? j other) ∧
    ∃ left, (hub.next k reader).1.Sees k reader name isOpen left ∧
      unread = left + (hub.next k reader).2.covers := by
  obtain ⟨stored, content, _, logs, _⟩ := sane
  obtain ⟨c, position, here, named, open', at?, left⟩ := sees
  obtain ⟨c', moved, here', reads, moves, positions⟩ := logs.next at?
  cases here.symm.trans here'
  have bound := reads.bound
  rw [List.length_drop, ← (logs.holds k c here).written] at bound
  have found : moved = (hub.next k reader).2.covers := by
    generalize (stored k).drop position = numbers at reads
    generalize (hub.next k reader).2 = outcome at reads ⊢
    cases reads with
    | nothing => cases c.isOpen <;> rfl
    | message | lagged => rfl
  refine ⟨moves, ?_, unread - moved, ?_, ?_⟩
  · intro j other different
    rw [positions, if_neg]
    rintro ⟨rfl, rfl⟩
    exact different rfl
  · obtain ⟨d, there, named', same⟩ := moves.after here
    have written := (moves.channel k c d here there).written
    refine ⟨d, position + moved, there, named'.trans named, same.trans open', ?_, ?_⟩
    · rw [positions, if_pos ⟨rfl, rfl⟩]
    · omega
  · omega

/-- A new reader has nothing to come to, and stands where no other reader does. -/
theorem sees_subscribe {j : Nat} (opened : hub.subscribe name = (after, j, reader)) :
    after.Sees j reader name true 0 := by
  obtain ⟨after', k', reader', c, opened', _, here, isOpen, named, at?, _⟩ :=
    hub.subscribe_spec name
  cases opened.symm.trans opened'
  exact ⟨c, c.written, here, named, isOpen, at?, Nat.add_zero _⟩

theorem Sees.subscribe (sees : hub.Sees k reader name isOpen unread) {other : String}
    {j reader' : Nat} (opened : hub.subscribe other = (after, j, reader')) :
    (k, reader) ≠ (j, reader') ∧ after.Sees k reader name isOpen unread := by
  obtain ⟨_, _, _, _, opened', moves, _, _, _, _, fresh, others⟩ := hub.subscribe_spec other
  cases opened.symm.trans opened'
  have different : (k, reader) ≠ (j, reader') := by
    intro same
    cases same
    obtain ⟨_, _, _, _, _, at?, _⟩ := sees
    rw [fresh] at at?
    contradiction
  refine ⟨different, (sees.channel other).moves moves ?_⟩
  rw [others k reader different, hub.position?_channel other]

end Hub

end Fanout
