import Fanout.Proofs.Network.Blend

/-! Messages on a bus that cannot be decoded. Writes of such messages are added to a run anywhere, with the
turns of the loops that come to them. This changes nothing for the clients, and in what a broker shows only
how many messages were read and how many of them could not be decoded. -/

namespace Fanout

/-- An act of a run, or one that was added to it. -/
structure Entry where
  act : Act
  added : Bool

namespace Entry

/-- The run with all that was added, on one bus. -/
def whole (entries : List Entry) : List Act := entries.map (·.act.shared)

/-- The run without what was added. -/
def base (entries : List Entry) : List Act := whole (entries.filter (!·.added))

theorem whole_append (before later : List Entry) :
    whole (before ++ later) = whole before ++ whole later :=
  List.map_append

theorem base_append (before later : List Entry) :
    base (before ++ later) = base before ++ base later := by
  rw [base, List.filter_append]
  exact whole_append ..

theorem base_cons_added {entry : Entry} (added : entry.added = true) (entries : List Entry) :
    base (entry :: entries) = base entries := by
  simp [base, added]

theorem base_cons_own {entry : Entry} (own : entry.added = false) (entries : List Entry) :
    base (entry :: entries) = entry.act.shared :: base entries := by
  simp [base, whole, own]

theorem admits_whole (capacity : Nat) {entries : List Entry} {act : Act}
    (member : act ∈ whole entries) : (Medium.memory capacity).Admits act := by
  obtain ⟨entry, _, rfl⟩ := List.mem_map.mp member
  exact entry.act.admits_shared capacity

/-- Whether the entry is a turn of this loop which was added. -/
def consumes (index : Nat) (entry : Entry) : Bool :=
  entry.added && entry.act.turning? = some index

/-- How many of the added messages a loop has come to. -/
def consumed (index : Nat) (entries : List Entry) : Nat := entries.countP (consumes index)

theorem consumes_of_own (index : Nat) {entry : Entry} (own : entry.added = false) :
    entry.consumes index = false := by
  rw [consumes, own, Bool.false_and]

theorem consumed_cons (index : Nat) (entry : Entry) (entries : List Entry) :
    consumed index (entry :: entries)
      = (if entry.consumes index then 1 else 0) + consumed index entries := by
  rw [consumed, List.countP_cons, Nat.add_comm, ← consumed]

/-- What is added is a write of a message that cannot be decoded, or the turn of a loop that comes to
an added message. No other turn comes to one. `marks` tells for each loop which of the messages that it
has still to come to were added. -/
def Fits (marks : Nat → List Bool) (entry : Entry) : Prop :=
  match entry.added, entry.act with
  | true, .on _ (.write _ message) => ∃ fault, Envelope.decode message = .error fault
  | true, .on _ (.turn index) => (marks index).head? = some true
  | true, _ => False
  | false, .on _ (.turn index) => (marks index).head? ≠ some true
  | false, _ => True

end Entry

namespace Network

/-- How many messages the loop of a broker has still to come to. -/
def waiting (network : Network) (index : Nat) : Nat :=
  ((network.brokers[index]?).bind (·.inbound.stream?)).elim 0 network.fabric.unread

/-- All that was added to a run that goes on from here fits. -/
def Inserts (network : Network) (marks : Nat → List Bool) : List Entry → Prop
  | [] => True
  | entry :: entries => entry.Fits marks ∧
    (network.act entry.act.shared).Inserts (fun index => remark entry.added (network.waiting index)
      ((network.act entry.act.shared).waiting index) (marks index)) entries

end Network

theorem Medium.Realizes.waiting_eq {medium : Medium} {network : Network} {exchange : Exchange}
    (realizes : medium.Realizes network exchange) (index : Nat) :
    network.waiting index = exchange.waiting index := by
  unfold Network.waiting Exchange.waiting
  cases here : network.brokers[index]? with
  | none =>
    rw [realizes.absent here]
    rfl
  | some broker =>
    obtain ⟨station, there, stands⟩ := realizes.exists_station here
    rw [there, Option.bind_some, Option.elim_some]
    cases reads : broker.inbound.stream? with
    | none => exact (Station.waiting_of_idle (Broker.idle_of_past stands.past reads)).symm
    | some stream =>
      have goesOn := Broker.goesOn_of_past stands.past (reads.trans_ne (Option.some_ne_none stream))
      rw [Station.waiting_of_goesOn goesOn]
      exact medium.unread realizes.sound (stands.waits stream reads)

theorem Entry.misses {marks : Nat → List Bool} {entry : Entry} (own : entry.added = false)
    (fits : entry.Fits marks) (i : Nat) (turns : entry.act.turning? = some i) :
    (marks i).head? ≠ some true := by
  obtain ⟨act, _⟩ := entry
  cases own
  cases act with
  | closing j | stop bus => contradiction
  | on bus step =>
    cases step with
    | turn j =>
      cases turns
      exact fits
    | receive | write | start | shutdown | publish | subscribe | close | unsubscribe | dropHandle
    | dropReceiver => contradiction

theorem Entry.silent {marks : Nat → List Bool} {entry : Entry} (added : entry.added = true)
    (fits : entry.Fits marks) (id : ClientId) : entry.act.receives id = false := by
  obtain ⟨act, _⟩ := entry
  cases added
  cases act with
  | closing j | stop bus => rfl
  | on bus step =>
    cases step with
    | receive => exact fits.elim
    | write | turn | start | shutdown | publish | subscribe | close | unsubscribe | dropHandle
    | dropReceiver => rfl

theorem Exchange.Blends.act_added {counts : Nat → Nat} {marks : Nat → List Bool}
    {exchange exchange' : Exchange} (blends : exchange.Blends counts marks exchange')
    {entry : Entry} (added : entry.added = true) (fits : entry.Fits marks) :
    exchange.Blends (fun i => counts i + if entry.consumes i then 1 else 0)
      (fun i => remark true (exchange'.waiting i) ((exchange'.act entry.act).waiting i) (marks i))
      (exchange'.act entry.act) := by
  obtain ⟨act, _⟩ := entry
  cases added
  cases act with
  | closing j | stop bus => exact fits.elim
  | on bus step =>
    cases step with
    | write channel message =>
      obtain ⟨fault, undecodable⟩ := fits
      exact blends.write_added bus channel undecodable
    | turn j =>
      have consumes (i : Nat) : Entry.consumes i ⟨.on bus (.turn j), true⟩ = decide (j = i) := by
        simp [Entry.consumes, Act.turning?]
      simp only [consumes, decide_eq_true_eq]
      exact blends.turn_added bus fits
    | start | shutdown | publish | subscribe | close | unsubscribe | dropHandle | dropReceiver
    | receive => exact fits.elim

namespace Network

variable {network : Network} {marks : Nat → List Bool} {entries before later : List Entry}

theorem inserts_of_append (inserts : network.Inserts marks (before ++ later)) :
    network.Inserts marks before := by
  induction before generalizing network marks with
  | nil => trivial
  | cons entry before ih => exact ⟨inserts.1, ih inserts.2⟩

/-- Both runs stay the same but for what was added, and receivers find the same in them. -/
theorem blends_acts {capacity : Nat} {exchange exchange' : Exchange} {counts : Nat → Nat}
    (realizes : (Medium.memory capacity).Realizes network exchange')
    (blends : exchange.Blends counts marks exchange') (inserts : network.Inserts marks entries)
    (keepsUp : network.keepsUp (Entry.whole entries) = true) :
    (∃ marks', (exchange.acts (Entry.base entries)).Blends
      (fun i => counts i + Entry.consumed i entries) marks'
      (exchange'.acts (Entry.whole entries))) ∧
    ∀ id, exchange'.received id (Entry.whole entries)
      = exchange.received id (Entry.base entries) := by
  -- What is still to come is added or not by the marks alone, so these go along with the network.
  induction entries generalizing network exchange exchange' counts marks with
  | nil => exact ⟨⟨marks, blends⟩, fun _ => rfl⟩
  | cons entry entries ih =>
    obtain ⟨fits, inserts⟩ := inserts
    obtain ⟨smooth, keepsUp⟩ := keepsUp_cons.mp keepsUp
    have realizes' := realizes.act (entry.act.admits_shared capacity) smooth
    have remarks : (fun i => remark entry.added (network.waiting i)
        ((network.act entry.act.shared).waiting i) (marks i))
        = fun i => remark entry.added (exchange'.waiting i)
          ((exchange'.act entry.act).waiting i) (marks i) := by
      funext i
      rw [realizes.waiting_eq, realizes'.waiting_eq, Exchange.act_shared]
    rw [remarks] at inserts
    rw [Exchange.act_shared] at realizes'
    have whole : exchange'.acts (Entry.whole (entry :: entries))
        = (exchange'.act entry.act).acts (Entry.whole entries) :=
      congrArg (Exchange.acts · _) (exchange'.act_shared entry.act)
    have received (id : ClientId) : exchange'.received id (Entry.whole (entry :: entries))
        = (if entry.act.receives id then [exchange'.findable id] else [])
          ++ (exchange'.act entry.act).received id (Entry.whole entries) := by
      rw [← Act.receives_shared, ← Exchange.act_shared]
      rfl
    simp only [whole, received, Entry.consumed_cons, ← Nat.add_assoc]
    cases added : entry.added with
    | true =>
      rw [added] at inserts
      obtain ⟨apart, finds⟩ := ih realizes' (blends.act_added added fits) inserts keepsUp
      rw [Entry.base_cons_added added]
      refine ⟨apart, fun id => ?_⟩
      rw [Entry.silent added fits, finds]
      rfl
    | false =>
      rw [added] at inserts
      obtain ⟨apart, finds⟩ :=
        ih realizes' (blends.act_own (Entry.misses added fits)) inserts keepsUp
      have base : exchange.acts (entry.act.shared :: Entry.base entries)
          = (exchange.act entry.act).acts (Entry.base entries) :=
        congrArg (Exchange.acts · _) (exchange.act_shared entry.act)
      simp only [Entry.base_cons_own added, base, Entry.consumes_of_own _ added]
      refine ⟨apart, fun id => ?_⟩
      rw [Exchange.received, Act.receives_shared, Exchange.act_shared, blends.findable_eq, finds]

/-- Messages that cannot be decoded are added to a run on a bus in memory, and turns of the loops that
come to them. As long as no loop falls behind, brokers show the same at every point of the run but for the
added messages among those that were read and that could not be decoded, and receivers find the same. -/
theorem malformed_invisible {capacity : Nat} {entries before later : List Entry}
    (inserts : (onBus capacity).Inserts (fun _ => []) entries)
    (keepsUp : (onBus capacity).keepsUp (Entry.base entries) = true)
    (keepsUp' : (onBus capacity).keepsUp (Entry.whole entries) = true)
    (split : entries = before ++ later) :
    (∀ index, ((onBus capacity).acts (Entry.whole before)).outlook? index
      = (((onBus capacity).acts (Entry.base before)).outlook? index).map
        (·.malformed (Entry.consumed index before))) ∧
    ∀ id, ((onBus capacity).acts (Entry.whole before)).findable id
        = ((onBus capacity).acts (Entry.base before)).findable id ∧
      (onBus capacity).received id (Entry.whole before)
        = (onBus capacity).received id (Entry.base before) := by
  subst split
  rw [Entry.base_append] at keepsUp
  rw [Entry.whole_append] at keepsUp'
  have keepsUp := (keepsUp_append.mp keepsUp).1
  have keepsUp' := (keepsUp_append.mp keepsUp').1
  have admits : ∀ act ∈ Entry.base before, (Medium.memory capacity).Admits act :=
    fun _ => Entry.admits_whole capacity
  have admits' : ∀ act ∈ Entry.whole before, (Medium.memory capacity).Admits act :=
    fun _ => Entry.admits_whole capacity
  have realizes := Medium.realizes_onBus capacity
  have shows := realizes.acts admits keepsUp
  have shows' := realizes.acts admits' keepsUp'
  obtain ⟨⟨_, blends⟩, finds⟩ :=
    blends_acts realizes .nil (inserts_of_append inserts) keepsUp'
  refine ⟨fun index => ?_, fun id => ⟨?_, ?_⟩⟩
  · rw [shows.outlook?_eq, shows'.outlook?_eq, blends.outlook?_eq, Nat.zero_add]
  · rw [shows.findable_eq, shows'.findable_eq, blends.findable_eq]
  · rw [realizes.received_eq id admits keepsUp, realizes.received_eq id admits' keepsUp', finds]

/-- A client gets a message behind one that cannot be decoded. -/
def noisy : List Entry :=
  [⟨.on 0 (.start ⟨"room", 1⟩), false⟩, ⟨.on 0 (.subscribe 0 "a"), false⟩,
    ⟨.on 0 (.write "room" [2]), true⟩,
    ⟨.on 0 (.write "room" (Envelope.encode ⟨"a", Event.writeParts "created" "a" none⟩)), false⟩,
    ⟨.on 0 (.turn 0), true⟩, ⟨.on 0 (.turn 0), false⟩, ⟨.on 0 (.receive ⟨0, 0⟩), false⟩]

theorem inserts_noisy : (onBus 2).Inserts (fun _ => []) noisy := by
  have undecodable : ∃ fault, Envelope.decode [2] = .error fault := by
    cases decoded : Envelope.decode [2] with
    | error fault => exact ⟨fault, rfl⟩
    | ok envelope =>
      have fails : (Envelope.decode [2]).isOk = false := by decide +kernel
      rw [decoded] at fails
      contradiction
  refine ⟨trivial, trivial, undecodable, trivial, ?_, ?_, trivial, trivial⟩
  · change List.head? _ = some true
    decide +kernel
  · change List.head? _ ≠ some true
    decide +kernel

theorem malformed_invisible_noisy : (onBus 2).Inserts (fun _ => []) noisy ∧
    (onBus 2).keepsUp (Entry.base noisy) = true ∧
    (onBus 2).keepsUp (Entry.whole noisy) = true ∧
    Entry.consumed 0 noisy = 1 ∧
    (∀ index, ((onBus 2).acts (Entry.whole noisy)).outlook? index
      = (((onBus 2).acts (Entry.base noisy)).outlook? index).map
        (·.malformed (Entry.consumed index noisy))) ∧
    (onBus 2).received ⟨0, 0⟩ (Entry.whole noisy)
      = (onBus 2).received ⟨0, 0⟩ (Entry.base noisy) := by
  have keepsUp : (onBus 2).keepsUp (Entry.base noisy) = true := by decide +kernel
  have keepsUp' : (onBus 2).keepsUp (Entry.whole noisy) = true := by decide +kernel
  obtain ⟨shows, finds⟩ := malformed_invisible inserts_noisy keepsUp keepsUp'
    (List.append_nil noisy).symm
  exact ⟨inserts_noisy, keepsUp, keepsUp', rfl, shows, (finds ⟨0, 0⟩).2⟩

end Network

end Fanout
