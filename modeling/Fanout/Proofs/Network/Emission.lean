import Fanout.Proofs.Event.Printed
import Fanout.Proofs.Network.Drained
import Fanout.Proofs.Network.Loss
import Fanout.Proofs.Network.Signs
import Fanout.Proofs.Publisher

/-! What comes of an event that a publisher emits. Its handlers forward to brokers on one bus, and
others go on with what they do in between. Each handler writes the event once, to the channel of its
broker; so how many copies a client gets is decided by the channel that its own broker is on. -/

namespace Fanout

open Json

/-- The steps of an emit, with what others do behind the step of each handler. -/
def emitting (event : Event Value) (turns : List (Nat × List Step)) : List Step :=
  turns.flatMap fun turn => .publish turn.1 (event.map .value) :: turn.2

/-- What is left of the steps without the emit. -/
def bystanding (turns : List (Nat × List Step)) : List Step := turns.flatMap (·.2)

/-- Whether a step writes nothing to the bus, whatever the state. -/
def Step.isMute : Step → Bool
  | .publish .. | .write .. => false
  | _ => true

namespace Network

/-- The channel of the broker that a handler forwards to. -/
def channel? (network : Network) (handler : Nat) : Option String :=
  (network.brokers[handler]?).map (·.channel)

/-- How many of the handlers forward to brokers on a channel. -/
def handlersOn (network : Network) (handlers : List Nat) (channel : String) : Nat :=
  handlers.countP fun handler => network.channel? handler = some channel

theorem write?_mute {network : Network} {step : Step} (mute : step.isMute = true) :
    network.write? step = none := by
  cases step with
  | publish | write => contradiction
  | start | turn | subscribe | unsubscribe | dropHandle | dropReceiver | receive | close
  | shutdown => rfl

/-- A broker stays on its channel, and is not opened again. -/
theorem broker_acts {network : Network} {index : Nat} {broker : Broker}
    (here : network.brokers[index]? = some broker) (acts : List Act) :
    ∃ left, (network.acts acts).brokers[index]? = some left ∧ left.channel = broker.channel ∧
      (broker.closed = true → left.closed = true) := by
  refine broker_induction (motive := fun left => left.channel = broker.channel ∧
    (broker.closed = true → left.closed = true)) here ⟨rfl, id⟩ ?_ acts
  rintro fabric left act ⟨channel, closed⟩
  refine ⟨(left.remains_perform fabric act).channel.trans channel, fun before => ?_⟩
  rw [left.closed_perform, closed before, Bool.true_or]

variable {network other : Network} {event : Event Value} {turns : List (Nat × List Step)}
  {index : Nat}

theorem channel?_acts {broker : Broker} (here : network.brokers[index]? = some broker)
    (acts : List Act) : (network.acts acts).channel? index = some broker.channel := by
  obtain ⟨left, there, channel, _⟩ := broker_acts here acts
  rw [channel?, there, Option.map_some, channel]

/-- A broker to whose channel no handler forwards notices nothing of an emit. -/
theorem visible_emitting (same : network.signs = other.signs)
    (there : ∀ turn ∈ turns, ∃ broker, network.brokers[turn.1]? = some broker)
    (apart : ∀ turn ∈ turns, (network.acts ((emitting event turns).map (.on 0))).channel? turn.1
      ≠ (network.acts ((emitting event turns).map (.on 0))).channel? index) :
    network.visible index ((emitting event turns).map (.on 0))
      = other.visible index ((bystanding turns).map (.on 0)) := by
  induction turns generalizing network other with
  | nil => rfl
  | cons turn turns rest =>
    obtain ⟨handler, others⟩ := turn
    have steps : (emitting event ((handler, others) :: turns)).map (Act.on 0)
        = .on 0 (.publish handler (event.map .value))
          :: (others.map (.on 0) ++ (emitting event turns).map (.on 0)) := by
      simp [emitting]
    have left : (bystanding ((handler, others) :: turns)).map (Act.on 0)
        = others.map (.on 0) ++ (bystanding turns).map (.on 0) := by
      simp [bystanding]
    rw [steps] at apart ⊢
    obtain ⟨publisher, here⟩ := there _ (List.mem_cons_self ..)
    have unnoticed : network.notices? index (.on 0 (.publish handler (event.map .value)))
        = none := by
      refine notices?_publish_elsewhere here (fun broker own shares => ?_) 0 _
      refine apart _ (List.mem_cons_self ..) ?_
      rw [channel?_acts here, channel?_acts own, shares]
    have published := signs_publish network 0 handler (event.map .value)
    rw [visible, unnoticed, Option.toList_none, List.nil_append, visible_append, left,
      visible_append, visible_of_signs (published.trans same)]
    congr 1
    refine rest (signs_acts (published.trans same) _) (fun turn member => ?_) fun turn member => ?_
    · obtain ⟨broker, found⟩ := there turn (List.mem_cons_of_mem _ member)
      exact exists_acts (.on 0 (.publish handler (event.map .value)) :: others.map (.on 0)) found
    · have further := apart turn (List.mem_cons_of_mem _ member)
      rw [← List.cons_append, acts_append] at further
      exact further

end Network

namespace Chronicle

open Network Broker

variable {capacity : Nat} {before : List Step} {event : Event Value}
  {turns : List (Nat × List Step)} {channel : String} {index : Nat} {broker : Broker}

theorem network_append (capacity : Nat) (before later : List Step) :
    (run capacity (before ++ later)).network
      = (run capacity before).network.acts (later.map (.on 0)) := by
  rw [← acts_initial, ← acts_initial, List.map_append, acts_append]

theorem broker_run (here : (run capacity before).network.brokers[index]? = some broker)
    (later : List Step) : ∃ left,
      (run capacity (before ++ later)).network.brokers[index]? = some left ∧
      left.channel = broker.channel ∧ (broker.closed = true → left.closed = true) := by
  rw [network_append]
  exact broker_acts here _

theorem channel?_run (here : (run capacity before).network.brokers[index]? = some broker)
    (later : List Step) :
    (run capacity (before ++ later)).network.channel? index = some broker.channel := by
  rw [network_append]
  exact channel?_acts here _

/-- What was written remains on record. -/
theorem writesOn_kept (capacity : Nat) (before later : List Step) (channel : String) :
    (run capacity before).writesOn channel
      <+: (run capacity (before ++ later)).writesOn channel := by
  refine kept_run (·.writesOn channel) (fun chronicle step => ?_) capacity before later
  rw [writesOn_advance]
  exact List.prefix_append ..

theorem count_le (capacity : Nat) (before later : List Step) (channel : String) :
    (run capacity before).count channel ≤ (run capacity (before ++ later)).count channel :=
  (writesOn_kept capacity before later channel).length_le

/-! ## The writes of an emit -/

/-- The write that a handler makes on its channel. -/
def copy (event : Event Value) (channel : String) : Write :=
  ⟨channel, some (event.map .value), Envelope.encode ⟨event.scope, event.text⟩⟩

/-- The numbers of the writes on a channel that the handlers make, one after the other. -/
def emitted (capacity : Nat) (event : Event Value) (channel : String) :
    List Step → List (Nat × List Step) → List Nat
  | _, [] => []
  | before, (handler, others) :: turns =>
    (((run capacity before).network.write? (.publish handler (event.map .value))).filter
        (·.channel = channel)).toList.map (fun _ => (run capacity before).count channel)
      ++ emitted capacity event channel (before ++ .publish handler (event.map .value) :: others)
        turns

/-- The handlers forward to brokers that are there, and that are not closed in the end. -/
def Forwards (capacity : Nat) (before : List Step) (event : Event Value)
    (turns : List (Nat × List Step)) : Prop :=
  ∀ handler ∈ turns.map (·.1), ∃ first last,
    (run capacity before).network.brokers[handler]? = some first ∧
    (run capacity (before ++ emitting event turns)).network.brokers[handler]? = some last ∧
    last.closed = false

theorem emitting_cons (event : Event Value) (handler : Nat) (others : List Step)
    (turns : List (Nat × List Step)) (before : List Step) :
    before ++ emitting event ((handler, others) :: turns)
      = before ++ .publish handler (event.map .value) :: others ++ emitting event turns := by
  simp [emitting]

section Turn

variable {handler : Nat} {others : List Step}
  (forwards : Forwards capacity before event ((handler, others) :: turns))
include forwards

theorem Forwards.later :
    Forwards capacity (before ++ .publish handler (event.map .value) :: others) event turns := by
  intro other member
  obtain ⟨first, last, here, there, running⟩ := forwards other (List.mem_cons_of_mem _ member)
  obtain ⟨left, reached, _⟩ := broker_run here (.publish handler (event.map .value) :: others)
  rw [emitting_cons] at there
  exact ⟨left, last, reached, there, running⟩

theorem Forwards.handlersOn_later : handlersOn
    (run capacity (before ++ .publish handler (event.map .value) :: others)).network
      (turns.map (·.1)) channel
    = (run capacity before).network.handlersOn (turns.map (·.1)) channel := by
  refine List.countP_congr fun other member => ?_
  obtain ⟨_, _, there, _⟩ := forwards other (List.mem_cons_of_mem _ member)
  rw [channel?_run there, channel?, there, Option.map_some]

/-- A handler writes the event to the channel of its broker. -/
theorem Forwards.write? : ∃ first,
    (run capacity before).network.brokers[handler]? = some first ∧
    (run capacity before).network.write? (.publish handler (event.map .value))
      = some (copy event first.channel) := by
  obtain ⟨first, last, here, there, running⟩ := forwards handler (List.mem_cons_self ..)
  obtain ⟨left, reached, _, closes⟩ := broker_run here (emitting event ((handler, others) :: turns))
  cases there.symm.trans reached
  have open' : first.closed = false := by
    rw [← Bool.not_eq_true]
    intro closed
    rw [closes closed] at running
    contradiction
  refine ⟨first, here, ?_⟩
  exact @write?_published capacity ⟨handler, 0⟩ _ _ _ _ here open' event.sealEvent_map_value

end Turn

/-- Behind a handler's step, its channel has one write more. -/
theorem writesOn_copy {step : Step} {own : String}
    (written : (run capacity before).network.write? step = some (copy event own)) :
    (run capacity (before ++ [step])).writesOn channel = (run capacity before).writesOn channel
      ++ if own = channel then [copy event channel] else [] := by
  rw [run_concat, writesOn_write written]
  by_cases same : own = channel
  · simp [copy, same]
  · simp [copy, same]

theorem emitted_cons {handler : Nat} {others : List Step} {own : String}
    (written : (run capacity before).network.write? (.publish handler (event.map .value))
      = some (copy event own)) :
    emitted capacity event channel before ((handler, others) :: turns)
      = (if own = channel then [(run capacity before).count channel] else [])
        ++ emitted capacity event channel (before ++ .publish handler (event.map .value) :: others)
          turns := by
  rw [emitted, written]
  by_cases same : own = channel <;> simp [copy, Option.filter, same]

/-- There are as many writes on a channel as there are handlers for it. -/
theorem length_emitted (forwards : Forwards capacity before event turns) :
    (emitted capacity event channel before turns).length
      = (run capacity before).network.handlersOn (turns.map (·.1)) channel := by
  induction turns generalizing before with
  | nil => rfl
  | cons turn turns rest =>
    obtain ⟨handler, others⟩ := turn
    obtain ⟨first, here, written⟩ := forwards.write?
    have onChannel : (run capacity before).network.channel? handler = some first.channel := by
      rw [channel?, here, Option.map_some]
    rw [emitted_cons written, List.length_append, rest forwards.later, forwards.handlersOn_later,
      List.map_cons, handlersOn, handlersOn, List.countP_cons, onChannel]
    by_cases own : first.channel = channel <;> simp [own, Nat.add_comm]

/-- Each of them is a new write of the event. -/
theorem emitted_written (forwards : Forwards capacity before event turns) :
    ∀ n ∈ emitted capacity event channel before turns,
      (run capacity before).count channel ≤ n ∧
      ((run capacity (before ++ emitting event turns)).writesOn channel)[n]?
        = some (copy event channel) := by
  induction turns generalizing before with
  | nil => simp [emitted]
  | cons turn turns rest =>
    obtain ⟨handler, others⟩ := turn
    obtain ⟨first, here, written⟩ := forwards.write?
    have later := count_le capacity before (.publish handler (event.map .value) :: others) channel
    intro n member
    rw [emitted_cons written, List.mem_append] at member
    rw [emitting_cons]
    rcases member with own | other
    · simp only [List.mem_ite_nil_right, List.mem_singleton] at own
      obtain ⟨same, rfl⟩ := own
      refine ⟨Nat.le_refl _, ?_⟩
      obtain ⟨more, grown⟩ := writesOn_kept capacity
        (before ++ [.publish handler (event.map .value)]) (others ++ emitting event turns) channel
      rw [writesOn_copy written, if_pos same] at grown
      rw [List.append_cons, List.append_assoc, ← grown, count, List.append_assoc,
        List.getElem?_append_right (Nat.le_refl _), Nat.sub_self]
      rfl
    · obtain ⟨above, there⟩ := rest forwards.later n other
      exact ⟨Nat.le_trans later above, there⟩

theorem emitted_increasing (forwards : Forwards capacity before event turns) :
    (emitted capacity event channel before turns).Pairwise (· < ·) := by
  induction turns generalizing before with
  | nil => exact .nil
  | cons turn turns rest =>
    obtain ⟨handler, others⟩ := turn
    obtain ⟨first, here, written⟩ := forwards.write?
    rw [emitted_cons written]
    by_cases own : first.channel = channel
    · rw [if_pos own, List.singleton_append, List.pairwise_cons]
      refine ⟨fun n member => ?_, rest forwards.later⟩
      have above := (emitted_written forwards.later n member).1
      have later := count_le capacity (before ++ [.publish handler (event.map .value)]) others
        channel
      have one : (run capacity (before ++ [.publish handler (event.map .value)])).count channel
          = (run capacity before).count channel + 1 := by
        rw [count, writesOn_copy written, if_pos own, List.length_append]
        rfl
      rw [List.append_cons] at above
      omega
    · rw [if_neg own, List.nil_append]
      exact rest forwards.later

theorem writesOn_mute {others : List Step} (mute : ∀ step ∈ others, step.isMute = true) :
    (run capacity (before ++ others)).writesOn channel
      = (run capacity before).writesOn channel := by
  induction others using List.reverseRecOn with
  | nil => rw [List.append_nil]
  | append_singleton others step same =>
    rw [← List.append_assoc, run_concat, writesOn_quiet (write?_mute (mute step (by simp)))]
    exact same fun other member => mute other (List.mem_append_left _ member)

/-- If nobody else writes, then nothing else is written. -/
theorem writesOn_emitting (forwards : Forwards capacity before event turns)
    (mute : ∀ turn ∈ turns, ∀ step ∈ turn.2, step.isMute = true) :
    (run capacity (before ++ emitting event turns)).writesOn channel
      = (run capacity before).writesOn channel ++ List.replicate
        ((run capacity before).network.handlersOn (turns.map (·.1)) channel)
        (copy event channel) := by
  rw [← length_emitted forwards]
  induction turns generalizing before with
  | nil => simp [emitting, emitted]
  | cons turn turns rest =>
    obtain ⟨handler, others⟩ := turn
    obtain ⟨first, here, written⟩ := forwards.write?
    have same := mute _ (List.mem_cons_self ..)
    rw [emitting_cons, rest forwards.later fun turn member =>
      mute turn (List.mem_cons_of_mem _ member), emitted_cons written, List.append_cons,
      writesOn_mute same, writesOn_copy written]
    by_cases own : first.channel = channel
    · simp [own, List.replicate_succ]
    · simp [own]

/-! ## Fanning out -/

/-- What comes of an emit, from the state before it on. -/
structure FansOut (capacity : Nat) (before : List Step) (event : Event Value) (handlers : List Nat)
    (turns : List (Nat × List Step)) : Prop where
  /-- On each channel there is a new write of the event for every handler that forwards to it. -/
  writes : ∀ channel,
    (emitted capacity event channel before turns).length
      = (run capacity before).network.handlersOn handlers channel ∧
    (emitted capacity event channel before turns).Pairwise (· < ·) ∧
    ∀ n ∈ emitted capacity event channel before turns, (run capacity before).count channel ≤ n ∧
      ((run capacity (before ++ emitting event turns)).writesOn channel)[n]?
        = some (copy event channel)
  /-- There are no other writes, if nobody else makes one. -/
  only : (∀ turn ∈ turns, ∀ step ∈ turn.2, step.isMute = true) → ∀ channel,
    (run capacity (before ++ emitting event turns)).writesOn channel
      = (run capacity before).writesOn channel ++ List.replicate
        ((run capacity before).network.handlersOn handlers channel) (copy event channel)
  /-- A client that listens to the scope has got its copies when the loop of its broker has read all
  there is, and has lost nothing meanwhile. -/
  copies : ∀ id first joined broker client,
    (run capacity before).network.brokers[id.registry]? = some first →
    first.registry.clients[id.serial]? = some joined →
    (joined.filter = "" ∨ joined.filter = event.scope) →
    (run capacity (before ++ emitting event turns)).network.Waits id.registry broker →
    (∀ lost, .lagged lost ∉ itemsSince capacity before (emitting event turns) id.registry) →
    broker.registry.clients[id.serial]? = some client → client.registered = true →
    client.receiving = true →
    Copied (run capacity before) (run capacity (before ++ emitting event turns)) id broker joined
      (emitted capacity event broker.channel before turns) event.text
  /-- A broker to whose channel no handler forwards shows the same at all times as without the emit,
  and its receivers find the same. -/
  unseen : ∀ index broker,
    (run capacity (before ++ emitting event turns)).network.brokers[index]? = some broker →
    (run capacity before).network.handlersOn handlers broker.channel = 0 →
    (onBus capacity).outlooks index ((before ++ emitting event turns).map (.on 0))
      = (onBus capacity).outlooks index ((before ++ bystanding turns).map (.on 0)) ∧
    ∀ serial,
      (onBus capacity).received ⟨index, serial⟩ ((before ++ emitting event turns).map (.on 0))
        = (onBus capacity).received ⟨index, serial⟩ ((before ++ bystanding turns).map (.on 0))

/-- What is emitted through a publisher, which has the handlers along its own derivation. -/
structure Emits (makings : List (Making Nat)) (place : Nat) (publisher : Publisher Nat)
    (event : Event Value) : Prop where
  along : Making.Along makings place publisher.handlers
  /-- No publisher that is made later changes it. -/
  later : ∀ more, Publisher.made? (makings ++ more) place = some publisher
  /-- Where nobody gets in between, these are the steps. -/
  steps : ∀ network, (publisher.publish Network.handle event network).value
    = (emitting event (publisher.handlers.map (·, []))).foldl Network.step network

theorem visible_run (index : Nat) (forwards : Forwards capacity before event turns)
    (here : (run capacity (before ++ emitting event turns)).network.brokers[index]? = some broker)
    (none : (run capacity before).network.handlersOn (turns.map (·.1)) broker.channel = 0) :
    (onBus capacity).visible index ((before ++ emitting event turns).map (.on 0))
      = (onBus capacity).visible index ((before ++ bystanding turns).map (.on 0)) := by
  have reached : (onBus capacity).acts (before.map (.on 0)) = (run capacity before).network :=
    acts_initial capacity before
  rw [List.map_append, List.map_append, visible_append, visible_append, reached]
  congr 1
  refine visible_emitting rfl (fun turn member => ?_) fun turn member => ?_
  · obtain ⟨first, _, there, _⟩ := forwards turn.1 (List.mem_map_of_mem member)
    exact ⟨first, there⟩
  · obtain ⟨first, _, there, _⟩ := forwards turn.1 (List.mem_map_of_mem member)
    have apart := List.countP_eq_zero.mp none turn.1 (List.mem_map_of_mem member)
    rw [decide_eq_true_eq, channel?, there, Option.map_some] at apart
    rw [← network_append, channel?_run there, channel?, here, Option.map_some]
    exact apart

/-- A publisher emits an event. Through each handler along its derivation, and through no other, the
event is written once to the channel of the handler's broker. A client that listens to its scope
gets as many copies as there are handlers for the channel of its own broker, if its queue has room,
and brokers on other channels notice nothing. -/
theorem fans_out (capacity : Nat) {makings : List (Making Nat)} {place : Nat}
    {publisher : Publisher Nat} (made : Publisher.made? makings place = some publisher)
    (through : turns.map (·.1) = publisher.handlers)
    (forwards : Forwards capacity before event turns) :
    Emits makings place publisher event ∧
      FansOut capacity before event publisher.handlers turns := by
  rw [← through]
  refine ⟨?_, ?_⟩
  · constructor
    case along => exact Publisher.along_of_made? made
    case later =>
      intro more
      rw [Publisher.made?_append (Publisher.lt_of_made? made), made]
    case steps =>
      intro network
      rw [publisher.publish_value, emitting, List.flatMap_map, List.map_eq_flatMap]
  · have sealed := event.sealEvent_map_value
    constructor
    case writes =>
      intro channel
      exact ⟨length_emitted forwards, emitted_increasing forwards, emitted_written forwards⟩
    case only =>
      intro mute channel
      exact writesOn_emitting forwards mute
    case copies =>
      intro id first joined broker client there found accepts waits kept stays registered receiving
      refine copied_of_waits there found waits kept stays registered receiving
        (by simpa [Client.accepts] using accepts) (Envelope.decode_encode_of_sealEvent sealed)
        (emitted_increasing forwards) fun n member => ?_
      obtain ⟨since, written⟩ := emitted_written forwards n member
      refine ⟨since, ?_⟩
      rw [content, written, Option.map_some, copy]
    case unseen =>
      intro index broker here none
      have same := visible_run index forwards here none
      have orderly := orderly_onBus capacity
      have mirrors := mirrors_onBus capacity index
      refine ⟨?_, fun serial => ?_⟩
      · rw [mirrors.outlooks_eq orderly orderly, mirrors.outlooks_eq orderly orderly, same]
      · rw [mirrors.received_eq orderly orderly, mirrors.received_eq orderly orderly, same]

/-- An event without a payload. -/
def creation : Event Value := .bare "created" "a"

/-- A publisher with one handler, of which a clone gets the same handler once more. -/
def registering : List (Making Nat) := [.new, .withHandler 0 0, .clone 1, .withHandler 2 0]

/-- The earlier publisher emits one event, and the loop of the broker reads it. -/
def emission : List (Nat × List Step) := [(0, [.turn 0])]

theorem emitted_creation : emitted 4 creation "room" joining emission = [0] := by
  have own : (run 4 joining).network.write? (.publish 0 (creation.map .value))
      = some (copy creation "room") :=
    @write?_published 4 ⟨0, 0⟩ _ _ _ _ (congrArg (·.brokers[0]?) network_joining) rfl
      creation.sealEvent_map_value
  rw [emission, emitted_cons own]
  rfl

theorem ahead_creation : (run 4 joining).ahead (run 4 (joining ++ publishing)) 0 "room" = [0] := by
  have first := congrArg (·.brokers[0]?) network_joining
  have drained : (run 4 joining).network.next? 0 = some .pending := by
    rw [network_joining]
    rfl
  obtain ⟨_, _, sound⟩ := sound_run 4 joining
  have nothing := (sound.attached_of_waits ⟨first, drained⟩).2
  rw [ahead, nothing, count, count, writesOn_publishing]
  rfl

theorem fans_out_creation : Publisher.made? registering 1 = some ⟨[0]⟩ ∧
    emission.map (·.1) = [0] ∧ Forwards 4 joining creation emission ∧
    Emits registering 1 ⟨[0]⟩ creation ∧ FansOut 4 joining creation [0] emission ∧
    ((run 4 (joining ++ emitting creation emission)).enqueued ⟨0, 0⟩).filter (·.1 ∈ [0])
      = [(0, creation.text)] := by
  have made : Publisher.made? registering 1 = some ⟨[0]⟩ := rfl
  have first := congrArg (·.brokers[0]?) network_joining
  have last := congrArg (·.brokers[0]?) network_publishing
  have forwards : Forwards 4 joining creation emission := by
    intro handler member
    cases List.mem_singleton.mp member
    exact ⟨_, _, first, last, rfl⟩
  have turns : emission.map (·.1) = [0] := rfl
  obtain ⟨emits, fans⟩ := fans_out 4 made turns forwards
  have drained : (run 4 (joining ++ publishing)).network.next? 0 = some .pending := by
    rw [network_publishing]
    rfl
  have kept : ∀ lost, .lagged lost ∉ itemsSince 4 joining publishing 0 := by
    intro lost member
    have read := List.mem_of_mem_drop member
    simp [items_publishing] at read
  have copied := fans.copies ⟨0, 0⟩ _ _ _ _ first rfl (.inr rfl) ⟨last, drained⟩ kept rfl rfl rfl
  have empty : (run 4 joining).network.queue ⟨0, 0⟩ = [] := by
    rw [network_joining]
    rfl
  have one := congrArg List.length ahead_creation
  have whole := copied.whole (hasRoom_of_le (by
    rw [empty]
    exact (Nat.zero_add _).trans_le (Nat.le_of_eq one)))
  rw [emitted_creation] at whole
  exact ⟨made, rfl, forwards, emits, fans, whole⟩

end Chronicle

end Fanout
