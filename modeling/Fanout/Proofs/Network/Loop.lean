import Fanout.Proofs.Network.Flow

/-! Inbound loops: what a turn, a close and a start of a broker do to the readers of the hub. -/

namespace Fanout

open Network Broker

namespace Chronicle

variable {chronicle : Chronicle} {hub after : Hub} {brokers : List Broker} {step : Step}
  {index : Nat} {broker broker' : Broker}

/-! ## What a turn reads -/

theorem item?_other (network : Network) {turning : Nat} (other : index ≠ turning) :
    network.item? index (.turn turning) = none := if_neg other.symm

theorem item?_self (network : Network) (index : Nat) :
    network.item? index (.turn index) = network.read? index := if_pos rfl

theorem broadcast?_other (network : Network) {turning : Nat} (other : index ≠ turning) :
    network.broadcast? index (.turn turning) = none := by
  rw [broadcast?, item?_other network other]
  rfl

theorem broadcast?_self (network : Network) (index : Nat) :
    network.broadcast? index (.turn index) = (network.read? index).bind envelope? := by
  rw [broadcast?, item?_self]

theorem item?_of_nothing {network : Network} (nothing : network.read? index = none) (j : Nat) :
    network.item? j (.turn index) = none := by
  by_cases same : j = index
  · rw [same, item?_self, nothing]
  · exact item?_other network same

theorem broadcast?_of_nothing {network : Network} (nothing : network.read? index = none)
    (j : Nat) : network.broadcast? j (.turn index) = none := by
  rw [broadcast?, item?_of_nothing nothing, Option.bind_none]

theorem idle_of_nothing (nothing : chronicle.network.read? index = none) :
    chronicle.Idle (.turn index) :=
  ⟨rfl, item?_of_nothing nothing, broadcast?_of_nothing nothing⟩

theorem Sound.read?_eq (sound : chronicle.Sound hub brokers) {k reader : Nat}
    (here : brokers[index]? = some broker)
    (stream : broker.inbound.stream? = some (.hub 0 k reader)) :
    chronicle.network.read? index = (hub.next k reader).2.item? := by
  simp only [read?, sound.network, onHub_brokers, here, stream, onHub_next, Option.bind_eq_bind,
    Option.bind_some]

/-! ## One reader -/

/-- The loop of a broker goes on by some messages, and no other reader moves. -/
structure Goes (hub after : Hub) (brokers : List Broker) (index k reader position moved : Nat)
    (broker : Broker) : Prop where
  here : brokers[index]? = some broker
  stream : broker.inbound.stream? = some (.hub 0 k reader)
  at? : hub.position? k reader = some position
  moves : hub.Moves after
  positions : ∀ j other, after.position? j other
    = if j = k ∧ other = reader then some (position + moved) else hub.position? j other

theorem Goes.same {k reader position moved : Nat}
    (goes : Goes hub after brokers index k reader position moved broker) (j other : Nat)
    (different : (j, other) ≠ (k, reader)) : after.position? j other = hub.position? j other := by
  rw [goes.positions, if_neg]
  rintro ⟨rfl, rfl⟩
  exact different rfl

/-- Brokers other than the one whose reader moves or goes are not reached. -/
theorem Sound.others (sound : chronicle.Sound hub brokers) {k reader : Nat}
    (here : brokers[index]? = some broker)
    (stream : broker.inbound.stream? = some (.hub 0 k reader))
    (same : ∀ j other, (j, other) ≠ (k, reader) →
      after.position? j other = hub.position? j other) :
    ∀ (j : Nat) (b : Broker), j ≠ index → brokers[j]? = some b → ∀ k' reader',
      b.inbound.stream? = some (.hub 0 k' reader') →
      after.position? k' reader' = hub.position? k' reader' := by
  intro j b other found k' reader' stream'
  refine same k' reader' fun equal => other ?_
  cases equal
  exact sound.alone j index b broker _ found here stream' stream

/-- One broker has changed its state, and the hub has moved or removed its reader alone. -/
theorem Sound.replace (sound : chronicle.Sound hub brokers)
    (here : brokers[index]? = some broker)
    (steps : chronicle.network.step step = .onHub after (brokers.set index broker'))
    (quiet : chronicle.network.write? step = none)
    (idle : ∀ j, j ≠ index → chronicle.network.item? j step = none ∧
      chronicle.network.broadcast? j step = none)
    (moves : hub.Moves after)
    (others : ∀ (j : Nat) (b : Broker), j ≠ index → brokers[j]? = some b → ∀ k reader,
      b.inbound.stream? = some (.hub 0 k reader) →
      after.position? k reader = hub.position? k reader)
    (wired : broker'.Wired after)
    (reads : ∀ stream, broker'.inbound.stream? = some stream →
      broker.inbound.stream? = some stream)
    (passes : (chronicle.advance step).stored = chronicle.stored →
      (chronicle.advance step).Sound after (brokers.set index broker') →
      chronicle.Passes step hub after index broker broker') :
    chronicle.Advances hub brokers step := by
  obtain ⟨stored, sound'⟩ := sound.quiet steps quiet moves.written (sound.logs.keeps moves.toKeeps)
    (names_of_keeps moves.toKeeps _)
    (fun j b found => by
      rcases getElem?_set_cases found with ⟨rfl, rfl⟩ | ⟨other, found⟩
      · exact wired
      · apply (sound.wired j b found).moves (.refl b) moves
        intro k reader position stream at?
        exact ⟨position, (others j b other found k reader stream).trans at?⟩)
    (sound.alone.set here reads)
  refine ⟨after, _, sound', Nat.le_of_eq List.length_set.symm, fun j b found => .inl ?_⟩
  rcases getElem?_set_cases found with ⟨rfl, rfl⟩ | ⟨other, before⟩
  · exact ⟨broker, here, passes stored sound'⟩
  · refine ⟨b, before, passes_still quiet (idle j other).1 (idle j other).2 (.refl b)
      (tells_none_refl b) ?_ fun _ attached => ?_⟩
    · rw [sound'.pending_eq found, sound.pending_eq before, stored]
      exact pending_congr (sound.wired j b before) (.refl b) (others j b other before)
    · exact attached.moves (.refl b) moves

/-- A loop that goes on is where it was on the bus. -/
theorem Sound.read (sound : chronicle.Sound hub brokers) {k reader position moved : Nat}
    (goes : Goes hub after brokers index k reader position moved broker)
    (steps : chronicle.network.step (.turn index) = .onHub after (brokers.set index broker'))
    (stays : broker.Stays broker')
    (tells : broker.Tells (chronicle.network.broadcast? index (.turn index)) broker')
    (flow : (chronicle.advance (.turn index)).pending index
        = (chronicle.pending index).drop moved →
      Flow chronicle (chronicle.advance (.turn index)) index broker broker'
        (chronicle.source (.turn index)) (chronicle.network.item? index (.turn index))
        (chronicle.network.broadcast? index (.turn index))) :
    chronicle.Advances hub brokers (.turn index) := by
  have reached : after.position? k reader = some (position + moved) := by
    rw [goes.positions, if_pos ⟨rfl, rfl⟩]
  have idle (j : Nat) (other : j ≠ index) : chronicle.network.item? j (.turn index) = none ∧
      chronicle.network.broadcast? j (.turn index) = none :=
    ⟨item?_other _ other, broadcast?_other _ other⟩
  refine sound.replace goes.here steps rfl idle goes.moves
    (sound.others goes.here goes.stream goes.same) ?_ ?_ ?_
  · apply (sound.wired index broker goes.here).moves stays goes.moves
    intro k' reader' _ stream' _
    cases goes.stream.symm.trans stream'
    exact ⟨_, reached⟩
  · intro stream' found
    exact stays.stream.symm.trans found
  · intro stored sound'
    refine ⟨stays.channel, fun closed => stays.closed.trans closed,
      fun _ attached => .inr (attached.moves stays goes.moves), tells, flow ?_⟩
    have here' : (brokers.set index broker')[index]? = some broker' :=
      List.getElem?_set_self (List.getElem?_eq_some_iff.mp goes.here).1
    rw [sound'.pending_eq here', sound.pending_eq goes.here, stored,
      pending_of_stream (stays.stream.trans goes.stream) reached,
      pending_of_stream goes.stream goes.at?, List.drop_drop]

/-- The loop of a broker is gone, by its own end or because the broker was closed. -/
theorem Sound.leave (sound : chronicle.Sound hub brokers)
    (here : brokers[index]? = some broker) (moves : hub.Moves after)
    (others : ∀ (j : Nat) (b : Broker), j ≠ index → brokers[j]? = some b → ∀ k reader,
      b.inbound.stream? = some (.hub 0 k reader) →
      after.position? k reader = hub.position? k reader)
    (steps : chronicle.network.step step = .onHub after (brokers.set index broker'))
    (idle : chronicle.Idle step) (bus : broker'.bus = broker.bus)
    (channel : broker'.channel = broker.channel) (gone : broker'.inbound.stream? = none)
    (down : broker'.listening = false)
    (stillClosed : broker.closed = true → broker'.closed = true)
    (tells : broker.Tells none broker')
    (reason : broker'.closed = true ∨ (chronicle.pending index = [] ∧ ¬ broker.Attached hub)) :
    chronicle.Advances hub brokers step := by
  apply sound.replace here steps idle.quiet (fun j _ => ⟨idle.noItem j, idle.silent j⟩) moves others
  · constructor
    case bus => exact bus.trans (sound.wired index broker here).bus
    case stream => simp [gone]
    case listening => rw [down, gone, Option.isSome_none]
    case closed => exact fun _ => gone
  · simp [gone]
  · intro stored sound'
    have here' : (brokers.set index broker')[index]? = some broker' :=
      List.getElem?_set_self (List.getElem?_eq_some_iff.mp here).1
    have empty : (chronicle.advance step).pending index = [] := by
      rw [sound'.pending_eq here', pending_of_none gone]
    constructor
    case channel => exact channel
    case closed => exact stillClosed
    case attached =>
      intro _ attached
      rcases reason with closed | ⟨_, detached⟩
      · exact .inl closed
      · exact absurd attached detached
    case tells =>
      rw [idle.silent index]
      exact tells
    case flow =>
      rw [idle.noItem index, idle.silent index]
      rcases reason with closed | ⟨read, detached⟩
      · exact .closed empty (count_quiet idle.quiet _) closed
      · exact .ended read empty (count_quiet idle.quiet _) (sound.hub_eq ▸ detached)

/-! ## Turns -/

section Turns

variable {k reader position : Nat}

theorem Sound.turn_pending (sound : chronicle.Sound hub brokers)
    (goes : Goes hub after brokers index k reader position 0 broker)
    (next : hub.next k reader = (after, .pending)) :
    chronicle.Advances hub brokers (.turn index) := by
  have steps := sound.steps (step_turn goes.here goes.stream)
  have read := sound.read?_eq goes.here goes.stream
  rw [next] at steps read
  refine sound.read goes steps ⟨rfl, rfl, goes.stream.symm, rfl, rfl⟩ ?_ ?_
  · rw [broadcast?_self, read]
    exact tells_none_refl broker
  · intro same
    rw [broadcast?_self, item?_self, read]
    exact .still same (count_quiet rfl _)

theorem Sound.turn_item (sound : chronicle.Sound hub brokers) {moved : Nat} {item : BusItem}
    (goes : Goes hub after brokers index k reader position moved broker)
    (next : hub.next k reader = (after, .item item))
    (flow : ∀ broker', (chronicle.advance (.turn index)).pending index
        = (chronicle.pending index).drop moved →
      Flow chronicle (chronicle.advance (.turn index)) index broker broker'
        (chronicle.source (.turn index)) (some item) (envelope? item)) :
    chronicle.Advances hub brokers (.turn index) := by
  have steps := sound.steps (step_turn goes.here goes.stream)
  have read := sound.read?_eq goes.here goes.stream
  rw [next] at steps read
  have running : broker.Stays { broker with inbound := .running (.hub 0 k reader) } :=
    ⟨rfl, rfl, goes.stream.symm, rfl, rfl⟩
  obtain ⟨stays, tells⟩ := take_spec { broker with inbound := .running (.hub 0 k reader) } item
  refine sound.read goes steps (running.trans stays) ?_ ?_
  · rw [broadcast?_self, read]
    exact tells
  · rw [broadcast?_self, item?_self, read]
    exact flow _

theorem Sound.turn_ended (sound : chronicle.Sound hub brokers) {channel : Channel}
    (goes : Goes hub after brokers index k reader position 0 broker)
    (next : hub.next k reader = (after, .ended)) (found : hub.channels[k]? = some channel)
    (closed : channel.isOpen = false) (empty : chronicle.pending index = []) :
    chronicle.Advances hub brokers (.turn index) := by
  have steps := sound.steps (step_turn goes.here goes.stream)
  have read := sound.read?_eq goes.here goes.stream
  rw [next] at steps read
  have same (j other : Nat) (different : (j, other) ≠ (k, reader)) :
      (after.drop k reader).position? j other = hub.position? j other :=
    (after.position?_drop k reader j other different).trans (goes.same j other different)
  have detached : ¬ broker.Attached hub := by
    rintro ⟨k', reader', channel', stream', found', isOpen⟩
    cases goes.stream.symm.trans stream'
    cases found.symm.trans found'
    rw [closed] at isOpen
    contradiction
  exact sound.leave goes.here (goes.moves.trans (after.moves_drop k reader))
    (sound.others goes.here goes.stream same) steps (idle_of_nothing read) rfl rfl rfl rfl
    (fun closed => closed) (tells_none_refl broker) (.inr ⟨empty, detached⟩)

theorem Sound.turn_reader (sound : chronicle.Sound hub brokers)
    (here : brokers[index]? = some broker)
    (stream : broker.inbound.stream? = some (.hub 0 k reader)) :
    chronicle.Advances hub brokers (.turn index) := by
  obtain ⟨_, _, _, channel, equal, found, named, at?⟩ :=
    (sound.wired index broker here).stream _ stream
  cases equal
  obtain ⟨c, moved, found', reads, moves, positions⟩ := sound.logs.next at?
  cases found.symm.trans found'
  rw [← pending_of_stream stream at?, ← sound.pending_eq here] at reads
  have goes : Goes hub (hub.next k reader).1 brokers index k reader _ moved broker :=
    ⟨here, stream, at?, moves, positions⟩
  rcases next : hub.next k reader with ⟨after, outcome⟩
  rw [next] at reads goes
  dsimp only at reads goes
  generalize todo : chronicle.pending index = numbers at reads
  cases reads with
  | nothing =>
    cases isOpen : channel.isOpen with
    | true =>
      rw [isOpen, if_pos rfl] at next
      exact sound.turn_pending goes next
    | false =>
      rw [isOpen, if_neg (by decide)] at next
      exact sound.turn_ended goes next found isOpen todo
  | @message number rest message known _ =>
    refine sound.turn_item goes next fun broker' left => ?_
    rw [todo, List.drop_one, List.tail_cons] at left
    rw [source, todo, List.headD_cons]
    refine .message (by rw [todo, left]) (count_quiet rfl _) ?_
    rw [content_quiet rfl, ← named, known]
  | lagged _ _ =>
    refine sound.turn_item goes next fun broker' left => ?_
    exact .lagged left (count_quiet rfl _)

end Turns

theorem Sound.turn (sound : chronicle.Sound hub brokers) (index : Nat) :
    chronicle.Advances hub brokers (.turn index) := by
  cases here : brokers[index]? with
  | none =>
    have nothing : chronicle.network.read? index = none := by simp [read?, sound.network, here]
    apply sound.local_refl (idle_of_nothing nothing)
    simp [sound.network, step, Network.turn, here]
  | some broker =>
    cases stream : broker.inbound.stream? with
    | none =>
      have nothing : chronicle.network.read? index = none := by
        simp [read?, sound.network, here, stream]
      exact sound.local_refl (idle_of_nothing nothing) (sound.steps (turn_idle here stream))
    | some found =>
      obtain ⟨k, reader, _, _, rfl, _⟩ := (sound.wired index broker here).stream found stream
      exact sound.turn_reader here stream

/-! ## Closing and starting -/

theorem Sound.close (sound : chronicle.Sound hub brokers) (index : Nat) :
    chronicle.Advances hub brokers (.close index) := by
  have idle : chronicle.Idle (.close index) := ⟨rfl, fun _ => rfl, fun _ => rfl⟩
  cases here : brokers[index]? with
  | none =>
    apply sound.local_refl idle
    simp [sound.network, step, Network.close, here]
  | some broker =>
    have tells := (Registry.wanes_closeAll broker.registry).settles
    have wired := sound.wired index broker here
    cases stream : broker.inbound.stream? with
    | none =>
      have down : broker.listening = false := by
        rw [wired.listening, stream, Option.isSome_none]
      have steps := sound.steps (close_idle here stream)
      exact sound.leave here (.refl hub) (fun _ _ _ _ _ _ _ => rfl) steps idle rfl rfl stream down
        (fun _ => rfl) tells (.inl rfl)
    | some found =>
      obtain ⟨k, reader, _, _, rfl, _⟩ := wired.stream found stream
      have steps := sound.steps (step_close here stream)
      exact sound.leave here (hub.moves_drop k reader)
        (sound.others here stream (hub.position?_drop k reader)) steps idle rfl rfl rfl rfl
        (fun _ => rfl) tells (.inl rfl)

theorem wired_started (index : Nat) (config : BrokerConfig) {k reader position : Nat}
    {channel : Channel} (here : hub.channels[k]? = some channel)
    (named : channel.name = config.channel) (at? : hub.position? k reader = some position) :
    (started index config k reader).Wired hub := by
  constructor
  case bus => rfl
  case stream =>
    intro stream found
    cases found
    exact ⟨k, reader, position, channel, rfl, here, named, at?⟩
  case listening => rfl
  case closed => exact fun closed => absurd closed Bool.false_ne_true

theorem Sound.start (sound : chronicle.Sound hub brokers) (config : BrokerConfig) :
    chronicle.Advances hub brokers (.start config) := by
  obtain ⟨after, k, reader, c, opened, moves, new, isOpen, named, at?, fresh, others⟩ :=
    hub.subscribe_spec config.channel
  have steps := sound.steps (step_start opened)
  have logs := (sound.logs.channel config.channel).keeps moves.toKeeps
  have kept {k' reader' position : Nat} (old : hub.position? k' reader' = some position) :
      after.position? k' reader' = some position := by
    refine (others k' reader' fun same => ?_).trans old
    cases same
    rw [fresh] at old
    contradiction
  have unread {j : Nat} {b : Broker} (before : brokers[j]? = some b) :
      b.inbound.stream? ≠ some (.hub 0 k reader) := by
    intro found
    obtain ⟨_, _, _, _, same, _, _, old⟩ := (sound.wired j b before).stream _ found
    cases same
    rw [fresh] at old
    contradiction
  have written (k : Nat) : after.written k = hub.written k :=
    (moves.toKeeps.written k).trans (hub.written_channel config.channel k)
  have names (j : Nat) (d : Channel) (here : after.channels[j]? = some d) :
      chronicle.stored j = [] ∨ ∃ c, hub.channels[j]? = some c ∧ c.name = d.name := by
    obtain ⟨d', before, same⟩ := moves.toKeeps.before here
    rcases hub.getElem?_channel config.channel j with kept | ⟨rfl, _, _⟩
    · exact .inr ⟨d', kept.symm.trans before, same.name.symm⟩
    · exact .inl (sound.logs.absent _ (List.getElem?_eq_none (Nat.le_refl _)))
  have wired (index : Nat) (broker : Broker)
      (here : (brokers ++ [started brokers.length config k reader])[index]? = some broker) :
      broker.Wired after := by
    rcases getElem?_snoc_cases here with before | ⟨_, rfl⟩
    · have grown := (sound.wired index broker before).channel config.channel
      apply grown.moves (.refl broker) moves
      intro k' reader' position _ old
      exact ⟨position, kept ((hub.position?_channel ..).symm.trans old)⟩
    · exact wired_started brokers.length config new named at?
  have alone : Alone (brokers ++ [started brokers.length config k reader]) := by
    apply sound.alone.snoc
    intro j b stream before found
    cases found
    exact unread before
  obtain ⟨stored, sound'⟩ := sound.quiet steps rfl written logs names wired alone
  refine ⟨after, _, sound', by simp, ?_⟩
  intro index broker' here
  have pending := sound'.pending_eq here
  rw [stored] at pending
  rcases getElem?_snoc_cases here with before | ⟨atEnd, rfl⟩
  · refine .inl ⟨broker', before, passes_still rfl rfl rfl (.refl broker')
      (tells_none_refl broker') ?_ fun _ attached => ?_⟩
    · rw [pending, sound.pending_eq before]
      apply pending_congr (sound.wired index broker' before) (.refl broker')
      intro k' reader' at?
      apply others k' reader'
      rintro ⟨rfl, rfl⟩
      exact unread before at?
    · exact (attached.channel config.channel).moves (.refl broker') moves
  · refine .inr ⟨List.getElem?_eq_none (Nat.le_of_eq atEnd.symm), rfl, rfl,
      ⟨k, reader, c, rfl, new, isOpen⟩, ?_⟩
    rw [pending, pending_of_stream rfl at?, (logs.holds k c new).written, List.drop_length]

end Chronicle

end Fanout
