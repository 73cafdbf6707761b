import Fanout.Proofs.Network.Completeness
import Fanout.Proofs.Network.Ledger

/-! A close is final. Whatever happens after it, the broker is without clients, its counters stand
still and it writes nothing; the receivers find what was queued for them and then the end. All that
other brokers and their clients find is as if the broker were not called any more. -/

namespace Fanout

/-- Whether the receiver of a client looks for a message. -/
def Act.receives (id : ClientId) : Act → Bool
  | .on _ (.receive other) => other = id
  | _ => false

theorem Act.eq_receive {id : ClientId} {act : Act} (looks : act.receives id = true) :
    ∃ bus, act = .on bus (.receive id) := by
  cases act with
  | closing j | stop bus => contradiction
  | on bus step =>
    cases step with
    | receive other => exact ⟨bus, by rw [of_decide_eq_true looks]⟩
    | start | write | shutdown | publish | turn | subscribe | close | unsubscribe | dropHandle
    | dropReceiver => contradiction

namespace Broker

variable {fabric : Fabric} {broker : Broker}

/-- The broker was closed, and its loop and its clients are gone. -/
structure Finished (broker : Broker) : Prop where
  closed : broker.closed = true
  idle : broker.inbound.stream? = none
  down : broker.listening = false
  clients : ∀ client ∈ broker.registry.clients, client.registered = false

/-- The later state of a closed broker has counted nothing more. -/
structure Fades (broker after : Broker) : Prop where
  finished : after.Finished
  stats : after.stats = broker.stats
  capacity : after.registry.capacity = broker.registry.capacity

theorem Finished.fades (finished : broker.Finished) : broker.Fades broker := ⟨finished, rfl, rfl⟩

theorem Fades.trans {after last : Broker} (first : broker.Fades after) (second : after.Fades last) :
    broker.Fades last :=
  ⟨second.finished, second.stats.trans first.stats, second.capacity.trans first.capacity⟩

theorem Finished.published (finished : broker.Finished) (fabric : Fabric) (event : Event Payload) :
    broker.published fabric event = (fabric, broker) :=
  published_closed finished.closed fabric event

theorem Finished.turned (finished : broker.Finished) (fabric : Fabric) :
    broker.turned fabric = (fabric, broker) :=
  turned_idle finished.idle fabric

theorem Finished.shut (finished : broker.Finished) (fabric : Fabric) :
    broker.shut fabric = (fabric, broker) := by
  have clients : broker.registry.clients.map ({ · with registered := false })
      = broker.registry.clients := by
    refine (List.map_congr_left fun client member => ?_).trans (List.map_id _)
    rw [← finished.clients client member]
    rfl
  have registry : broker.registry.closeAll.value = broker.registry := by
    rw [Registry.closeAll_value, clients]
  simp only [Broker.shut, finished.idle, registry]
  rw [← finished.closed]

theorem Finished.onClient (finished : broker.Finished) (serial : Nat) {f : Client → Client}
    (gone : ∀ client : Client, client.registered = false → (f client).registered = false) :
    broker.Fades (broker.onClient serial f) := by
  refine ⟨⟨finished.closed, finished.idle, finished.down, ?_⟩, rfl, rfl⟩
  intro client member
  obtain ⟨other, there⟩ := List.mem_iff_getElem?.mp member
  obtain ⟨before, here, rfl⟩ := getElem?_modify_cases there
  have kept := finished.clients before (List.mem_of_getElem? here)
  split
  · exact gone before kept
  · exact kept

theorem Finished.joined (finished : broker.Finished) (filter : String) :
    broker.Fades (broker.joined filter) := by
  refine ⟨⟨finished.closed, finished.idle, finished.down, ?_⟩, rfl, rfl⟩
  intro client member
  rcases List.mem_append.mp member with old | new
  · exact finished.clients client old
  · split at new
    · contradiction
    · rw [List.mem_singleton.mp new, finished.closed]
      rfl

/-- Nothing that is done to a closed broker reaches the buses. -/
theorem Finished.perform (finished : broker.Finished) (fabric : Fabric) (act : Act) :
    (broker.perform fabric act).1 = fabric ∧ broker.Fades (broker.perform fabric act).2 := by
  cases act with
  | closing j => exact ⟨rfl, ⟨rfl, finished.idle, finished.down, finished.clients⟩, rfl, rfl⟩
  | stop bus => exact ⟨rfl, finished.fades⟩
  | on bus step =>
    cases step with
    | publish j event =>
      rw [Broker.perform, finished.published]
      exact ⟨rfl, finished.fades⟩
    | turn j =>
      rw [Broker.perform, finished.turned]
      exact ⟨rfl, finished.fades⟩
    | close j =>
      rw [Broker.perform, finished.shut]
      exact ⟨rfl, finished.fades⟩
    | start config | write channel message | shutdown => exact ⟨rfl, finished.fades⟩
    | subscribe j filter =>
      rw [perform_subscribe]
      exact ⟨rfl, finished.joined filter⟩
    | unsubscribe id | dropHandle id => exact ⟨rfl, finished.onClient id.serial fun _ _ => rfl⟩
    | dropReceiver id => exact ⟨rfl, finished.onClient id.serial fun _ gone => gone⟩
    | receive id =>
      refine ⟨rfl, finished.onClient id.serial fun client gone => ?_⟩
      rw [Client.receive_fst]
      exact gone

/-- A close leaves the broker finished, and leaves what is queued. -/
theorem finished_shut (fabric : Fabric) (flag : broker.listening = broker.inbound.stream?.isSome) :
    (broker.shut fabric).2.Finished := by
  have clients : ∀ client ∈ broker.registry.closeAll.value.clients, client.registered = false := by
    rw [Registry.closeAll_value]
    intro client member
    obtain ⟨_, _, rfl⟩ := List.mem_map.mp member
    rfl
  unfold Broker.shut
  cases reads : broker.inbound.stream? with
  | none =>
    rw [reads] at flag
    exact ⟨rfl, reads, flag, clients⟩
  | some stream => exact ⟨rfl, rfl, rfl, clients⟩

theorem Finished.clientCount (finished : broker.Finished) : broker.clientCount = 0 :=
  List.countP_eq_zero.mpr fun client member => by simp [finished.clients client member]

/-! ## One receiver -/

/-- What is queued for a client, nothing where there is none. -/
def queue (broker : Broker) (serial : Nat) : List Message :=
  ((broker.registry.clients[serial]?).map (·.queue)).getD []

theorem queue_onClient (broker : Broker) (serial other : Nat) (f : Client → Client) :
    (broker.onClient other f).queue serial = if other = serial
      then ((broker.registry.clients[serial]?).map fun client => (f client).queue).getD []
      else broker.queue serial := by
  simp only [queue, onClient, Registry.update, List.getElem?_modify]
  cases broker.registry.clients[serial]? with
  | none => simp
  | some client =>
    simp only [Option.map_eq_map, Option.map_some, Option.getD_some]
    split <;> rfl

/-- Removing a client leaves its queue. -/
theorem queue_onClient_same (broker : Broker) (serial other : Nat) {f : Client → Client}
    (same : ∀ client, (f client).queue = client.queue) :
    (broker.onClient other f).queue serial = broker.queue serial := by
  rw [queue_onClient, queue]
  simp only [same, ite_self]

theorem queue_joined (broker : Broker) (filter : String) (serial : Nat) :
    (broker.joined filter).queue serial = broker.queue serial := by
  simp only [queue, joined, List.getElem?_append]
  split
  · rfl
  · rename_i outside
    rw [List.getElem?_eq_none (Nat.le_of_not_lt outside)]
    split
    · rfl
    · rcases Nat.eq_zero_or_pos (serial - broker.registry.clients.length) with zero | pos
      · rw [zero]
        rfl
      · rw [List.getElem?_eq_none (by rwa [List.length_singleton])]

/-- A receiver of a closed broker finds what is queued, and then the end. -/
theorem Finished.receive (finished : broker.Finished) (serial : Nat) :
    (broker.registry.receive serial).2 = match broker.queue serial with
      | message :: _ => .ok message
      | [] => .error .closed := by
  rw [Registry.receive_snd, queue]
  cases found : broker.registry.clients[serial]? with
  | none => rfl
  | some client =>
    have gone := finished.clients client (List.mem_of_getElem? found)
    simp only [Option.map_some, Option.getD_some, Client.receive, gone]
    cases client.queue <;> rfl

/-- What an act leaves in a queue of a closed broker. -/
theorem Finished.queue_perform (finished : broker.Finished) (fabric : Fabric) (act : Act)
    (serial : Nat) : (broker.perform fabric act).2.queue serial = match act with
      | .on _ (.receive id) =>
        if id.serial = serial then (broker.queue serial).tail else broker.queue serial
      | .on _ (.dropReceiver id) => if id.serial = serial then [] else broker.queue serial
      | _ => broker.queue serial := by
  cases act with
  | closing j | stop bus => rfl
  | on bus step =>
    cases step with
    | publish j event => rw [Broker.perform, finished.published]
    | turn j => rw [Broker.perform, finished.turned]
    | close j => rw [Broker.perform, finished.shut]
    | start config | write channel message | shutdown => rfl
    | subscribe j filter =>
      rw [perform_subscribe]
      exact queue_joined broker filter serial
    | unsubscribe id | dropHandle id => exact queue_onClient_same _ _ _ fun _ => rfl
    | dropReceiver id =>
      simp only [Broker.perform, queue_onClient, Client.dropReceiver]
      cases broker.registry.clients[serial]? <;> rfl
    | receive id =>
      simp only [Broker.perform, queue_onClient, Client.receive_fst]
      rw [queue]
      cases broker.registry.clients[serial]? <;> rfl

/-- Only its own receiver takes anything out of a queue. -/
theorem Finished.queue_kept (finished : broker.Finished) (fabric : Fabric) {act : Act}
    {index serial : Nat} (names : act.broker? = some index)
    (looks : act.receives ⟨index, serial⟩ = false)
    (held : ∀ bus, act ≠ .on bus (.dropReceiver ⟨index, serial⟩)) :
    (broker.perform fabric act).2.queue serial = broker.queue serial := by
  rw [finished.queue_perform]
  split
  · rename_i bus id
    refine if_neg fun same => ?_
    cases names
    subst same
    simp [Act.receives] at looks
  · rename_i bus id
    refine if_neg fun same => ?_
    cases names
    subst same
    exact held bus rfl
  · rfl

/-- No act puts anything into a queue of a closed broker. -/
theorem Finished.queue_suffix (finished : broker.Finished) (fabric : Fabric) (act : Act)
    (serial : Nat) : (broker.perform fabric act).2.queue serial <:+ broker.queue serial := by
  rw [finished.queue_perform]
  split
  · split
    · exact List.tail_suffix _
    · exact List.suffix_refl _
  · split
    · exact List.nil_suffix
    · exact List.suffix_refl _
  · exact List.suffix_refl _

end Broker

namespace Network

variable {network other : Network} {index : Nat} {broker : Broker}

theorem queue_eq (here : network.brokers[index]? = some broker) (serial : Nat) :
    network.queue ⟨index, serial⟩ = broker.queue serial := by
  rw [Network.queue, client?, here]
  rfl

/-- What the receiver of a client finds if it looks now. -/
def findable (id : ClientId) (network : Network) : Except QueueEnd Message :=
  ((network.brokers[id.registry]?).map fun broker => (broker.registry.receive id.serial).2).getD
    (.error .closed)

/-- What the receiver of a client finds in a run, one after the other. -/
def received (id : ClientId) (network : Network) : List Act → List (Except QueueEnd Message)
  | [] => []
  | act :: acts => (if act.receives id then [network.findable id] else [])
    ++ (network.act act).received id acts

theorem received_append (id : ClientId) (network : Network) (before later : List Act) :
    network.received id (before ++ later)
      = network.received id before ++ (network.acts before).received id later := by
  induction before generalizing network with
  | nil => rfl
  | cons act acts ih =>
    rw [List.cons_append, received, received, ih, List.append_assoc]
    rfl

theorem received_of_silent {id : ClientId} {acts : List Act}
    (silent : ∀ act ∈ acts, act.receives id = false) :
    network.received id acts = [] := by
  induction acts generalizing network with
  | nil => rfl
  | cons act acts ih =>
    rw [received, silent act List.mem_cons_self, ih fun act member =>
      silent act (List.mem_cons_of_mem _ member)]
    rfl

/-- A receiver of a closed broker finds what was queued for it, and then the end for ever. -/
theorem received_finished (here : network.brokers[index]? = some broker)
    (finished : broker.Finished) (serial : Nat) {acts : List Act}
    (held : ∀ bus, .on bus (.dropReceiver ⟨index, serial⟩) ∉ acts) :
    network.received ⟨index, serial⟩ acts
      = ((broker.queue serial).map .ok).take (acts.countP (·.receives ⟨index, serial⟩))
        ++ List.replicate (acts.countP (·.receives ⟨index, serial⟩) - (broker.queue serial).length)
          (.error .closed) := by
  -- The induction goes forward, from the state of the queue before an act to that after it.
  induction acts generalizing network broker with
  | nil => simp [received]
  | cons act acts rest =>
    have held' : ∀ bus, .on bus (.dropReceiver ⟨index, serial⟩) ∉ acts := fun bus member =>
      held bus (List.mem_cons_of_mem _ member)
    have there := broker_act act here
    cases looks : act.receives ⟨index, serial⟩ with
    | true =>
      obtain ⟨bus, rfl⟩ := Act.eq_receive looks
      have names : (Act.on bus (.receive ⟨index, serial⟩)).broker? = some index := rfl
      rw [if_pos names] at there
      have fades := (finished.perform network.fabric (.on bus (.receive ⟨index, serial⟩))).2
      have found : network.findable ⟨index, serial⟩ = match broker.queue serial with
          | message :: _ => .ok message
          | [] => .error .closed := by
        rw [findable, here, ← finished.receive serial]
        rfl
      have taken : (broker.perform network.fabric (.on bus (.receive ⟨index, serial⟩))).2.queue
          serial = (broker.queue serial).tail := by
        rw [finished.queue_perform]
        exact if_pos rfl
      rw [received, looks, if_pos rfl, rest there fades.finished held', taken, found,
        List.countP_cons_of_pos looks]
      cases broker.queue serial with
      | nil => simp [List.replicate_succ]
      | cons message messages => simp
    | false =>
      have goes : ∃ after : Broker, (network.act act).brokers[index]? = some after ∧
          after.Finished ∧ after.queue serial = broker.queue serial := by
        refine ⟨_, there, ?_⟩
        split
        · rename_i names
          exact ⟨(finished.perform network.fabric act).2.finished,
            finished.queue_kept network.fabric names looks fun bus same =>
              held bus (same ▸ List.mem_cons_self ..)⟩
        · exact ⟨finished, rfl⟩
      obtain ⟨after, there', finished', same⟩ := goes
      rw [received, looks, if_neg Bool.false_ne_true, List.nil_append,
        rest there' finished' held', same, List.countP_cons_of_neg (by simp [looks])]

/-! ## Other brokers -/

/-- The buses and all brokers but this one are the same. -/
structure Beside (index : Nat) (network other : Network) : Prop where
  fabric : other.fabric = network.fabric
  length : other.brokers.length = network.brokers.length
  brokers : ∀ j, j ≠ index → other.brokers[j]? = network.brokers[j]?

theorem Beside.refl (index : Nat) (network : Network) : network.Beside index network :=
  ⟨rfl, rfl, fun _ _ => rfl⟩

/-- What is done to a closed broker is done to no other. -/
theorem Beside.absorb (beside : Beside index network other)
    (here : network.brokers[index]? = some broker) (finished : broker.Finished) {act : Act}
    (names : act.broker? = some index) : Beside index (network.act act) other := by
  rw [act_eq_put names here, put, (finished.perform network.fabric act).1]
  constructor
  case fabric => exact beside.fabric
  case length => rw [beside.length, List.length_set]
  case brokers =>
    intro j different
    rw [beside.brokers j different, List.getElem?_set_ne different.symm]

/-- What is done to others is the same, whatever became of the closed broker. -/
theorem Beside.act (beside : Beside index network other) {act : Act}
    (elsewhere : act.broker? ≠ some index) : Beside index (network.act act) (other.act act) := by
  obtain ⟨fabric, brokers⟩ := network
  obtain ⟨_, brokers'⟩ := other
  obtain ⟨rfl, length, same⟩ := beside
  -- An act reads the buses, the broker it names and the number of brokers, and all are the same.
  cases names : act.broker? with
  | none =>
    rcases of_names_none names with
      ⟨bus, config, rfl⟩ | ⟨bus, channel, message, rfl⟩ | ⟨bus, rfl⟩ | ⟨bus, rfl⟩
    · rw [act_start, act_start]
      simp only at length
      refine ⟨rfl, by simp [length], fun j different => ?_⟩
      simp only [List.getElem?_append, length, same j different]
    all_goals exact ⟨rfl, length, same⟩
  | some j =>
    have different : j ≠ index := fun absurd => elsewhere (absurd ▸ names)
    cases there : brokers[j]? with
    | none =>
      rw [act_of_absent names there, act_of_absent names ((same j different).trans there)]
      exact ⟨rfl, length, same⟩
    | some found =>
      rw [act_eq_put names there, act_eq_put names ((same j different).trans there)]
      refine ⟨rfl, by simpa [put] using length, fun k other => ?_⟩
      simp only [put, List.getElem?_set, length, same k other]

theorem Beside.findable (beside : Beside index network other) {id : ClientId}
    (elsewhere : id.registry ≠ index) : network.findable id = other.findable id := by
  rw [Network.findable, Network.findable, beside.brokers _ elsewhere]

/-- The acts of a run that do not name this broker. -/
def elsewhere (index : Nat) (acts : List Act) : List Act :=
  acts.filter fun act => act.broker? ≠ some index

/-- Other brokers and their clients do not notice whether a closed broker is called. -/
theorem Beside.acts (beside : Beside index network other)
    (here : network.brokers[index]? = some broker) (finished : broker.Finished) (acts : List Act) :
    Beside index (network.acts acts) (other.acts (elsewhere index acts)) ∧
      ∀ id : ClientId, id.registry ≠ index →
        network.received id acts = other.received id (elsewhere index acts) := by
  induction acts generalizing network other broker with
  | nil => exact ⟨beside, fun _ _ => rfl⟩
  | cons act acts rest =>
    have there := broker_act act here
    by_cases names : act.broker? = some index
    · rw [if_pos names] at there
      have skipped : elsewhere index (act :: acts) = elsewhere index acts :=
        List.filter_cons_of_neg (by simp [names])
      obtain ⟨same, found⟩ := rest (beside.absorb here finished names) there
        (finished.perform network.fabric act).2.finished
      rw [skipped]
      refine ⟨same, fun id elsewhere => ?_⟩
      have looks : act.receives id = false := by
        by_contra looks
        obtain ⟨bus, rfl⟩ := Act.eq_receive (eq_true_of_ne_false looks)
        exact elsewhere (Option.some.inj names)
      rw [received, looks, if_neg Bool.false_ne_true, List.nil_append, found id elsewhere]
    · rw [if_neg names] at there
      have made : elsewhere index (act :: acts) = act :: elsewhere index acts :=
        List.filter_cons_of_pos (by simp [names])
      obtain ⟨same, found⟩ := rest (beside.act names) there finished
      rw [made]
      refine ⟨same, fun id elsewhere => ?_⟩
      rw [received, received, beside.findable elsewhere, found id elsewhere]

/-! ## After the close -/

theorem finished_acts (here : network.brokers[index]? = some broker) (finished : broker.Finished)
    (acts : List Act) :
    ∃ left, (network.acts acts).brokers[index]? = some left ∧ broker.Fades left := by
  induction acts generalizing network broker with
  | nil => exact ⟨broker, here, finished.fades⟩
  | cons act acts rest =>
    have there := broker_act act here
    by_cases names : act.broker? = some index
    · rw [if_pos names] at there
      have fades := (finished.perform network.fabric act).2
      obtain ⟨left, last, fades'⟩ := rest there fades.finished
      exact ⟨left, last, fades.trans fades'⟩
    · rw [if_neg names] at there
      exact rest there finished

/-- A receiver that is opened at a closed broker finds the end. -/
theorem subscribe_finished (here : network.brokers[index]? = some broker)
    (finished : broker.Finished) (fits : broker.registry.capacity ≤ maxQueueCapacity)
    (filter : String) :
    ∃ joined id, network.subscribe index filter = some joined ∧ joined.value.2 = id ∧
      id.registry = index ∧ joined.value.1.queue id = [] ∧
      joined.value.1.findable id = .error .closed := by
  obtain ⟨joined, subscribed⟩ : ∃ joined, broker.subscribe filter = some joined := by
    rw [Broker.subscribe, Registry.subscribe, if_neg (Nat.not_lt.mpr fits)]
    exact ⟨_, rfl⟩
  have inside := (List.getElem?_eq_some_iff.mp here).1
  have value := Broker.subscribe_value subscribed
  simp only [Network.subscribe, here, subscribed, Option.map_some]
  refine ⟨_, _, rfl, rfl, rfl, ?_, ?_⟩
  · simp [queue, client?, value, setBroker, List.getElem?_set_self inside, Client.opened]
  · simp [findable, value, setBroker, List.getElem?_set_self inside, Registry.receive_snd,
      Client.receive, Client.opened, finished.closed]

/-- Callers find a broker listening as long as it has a stream. -/
theorem listening_acts (fabric : Fabric) {acts : List Act}
    (here : ((⟨fabric, []⟩ : Network).acts acts).brokers[index]? = some broker) :
    broker.listening = broker.inbound.stream?.isSome := by
  induction acts using List.reverseRecOn generalizing broker with
  | nil => simp [Network.acts] at here
  | append_singleton acts act earlier =>
    rw [acts_concat] at here
    rcases broker_before here with ⟨before, there⟩ | ⟨bus, config, rfl, _, rfl⟩
    · cases (broker_act act there).symm.trans here
      split
      · rcases (before.remains_perform _ act).loop with ⟨stream, flag⟩ | ⟨stream, flag⟩
        · rw [stream, flag, earlier there]
        · rw [stream, flag]
          rfl
      · exact earlier there
    · cases (((⟨fabric, []⟩ : Network).acts acts).fabric.subscribe bus config.channel).value.2 <;>
        rfl

/-- What is settled for a closed broker and for all others, whatever is done later. -/
structure Final (network : Network) (index : Nat) (later : List Act) : Prop where
  /-- The broker remains closed, without clients and without a loop, and counts nothing more. -/
  silent : ∃ broker left, network.brokers[index]? = some broker ∧
    (network.acts later).brokers[index]? = some left ∧ left.closed = true ∧
    left.clientCount = 0 ∧ left.listening = false ∧ left.stats = broker.stats
  /-- What is published on it goes to no bus and no client. -/
  published : ∀ bus event,
    (network.acts later).act (.on bus (.publish index event)) = network.acts later
  /-- It can be closed again, to no effect. -/
  closes : ∀ bus, (network.acts later).act (.closing index) = network.acts later ∧
    (network.acts later).act (.on bus (.close index)) = network.acts later
  /-- No act puts anything into a queue of its clients. -/
  queues : ∀ act serial, ((network.acts later).act act).queue ⟨index, serial⟩
    <:+ (network.acts later).queue ⟨index, serial⟩
  /-- A receiver that is kept finds what was queued, and then the end for ever. -/
  received : ∀ serial, (∀ bus, .on bus (.dropReceiver ⟨index, serial⟩) ∉ later) →
    network.received ⟨index, serial⟩ later
      = ((network.queue ⟨index, serial⟩).map .ok).take
          (later.countP (·.receives ⟨index, serial⟩))
        ++ List.replicate (later.countP (·.receives ⟨index, serial⟩)
          - (network.queue ⟨index, serial⟩).length) (.error .closed)
  /-- A new receiver has nothing to find but the end. -/
  joined : ∀ filter, ∃ joined id, (network.acts later).subscribe index filter = some joined ∧
    joined.value.2 = id ∧ id.registry = index ∧ joined.value.1.queue id = [] ∧
    joined.value.1.findable id = .error .closed
  /-- All others are as if the broker were not called any more. -/
  others : Beside index (network.acts later) (network.acts (elsewhere index later)) ∧
    ∀ id : ClientId, id.registry ≠ index →
      network.received id later = network.received id (elsewhere index later)

/-- A close is final, in every state that can be reached. -/
theorem final_closed (fabric : Fabric) (before : List Act) (bus : Nat)
    (here : ((⟨fabric, []⟩ : Network).acts before).brokers[index]? = some broker)
    (fits : broker.registry.capacity ≤ maxQueueCapacity) (later : List Act) :
    (((⟨fabric, []⟩ : Network).acts before).act (.on bus (.close index))).Final index later := by
  have flag := listening_acts fabric here
  have remains := broker.remains_shut ((⟨fabric, []⟩ : Network).acts before).fabric
  have finished := broker.finished_shut ((⟨fabric, []⟩ : Network).acts before).fabric flag
  have closed := broker_act (.on bus (.close index)) here
  have names : (Act.on bus (.close index)).broker? = some index := rfl
  rw [if_pos names] at closed
  generalize ((⟨fabric, []⟩ : Network).acts before).act (.on bus (.close index)) = network
    at closed ⊢
  simp only [Broker.perform] at closed
  generalize (broker.shut ((⟨fabric, []⟩ : Network).acts before).fabric).2 = shut at *
  obtain ⟨left, there, fades⟩ := finished_acts closed finished later
  constructor
  case silent =>
    exact ⟨shut, left, closed, there, fades.finished.closed, fades.finished.clientCount,
      fades.finished.down, fades.stats⟩
  case published =>
    intro bus event
    rw [act_eq_put rfl there, Broker.perform, fades.finished.published, put_same there]
  case closes =>
    intro bus
    constructor
    · rw [act_eq_put rfl there, Broker.perform, ← fades.finished.closed, put_same there]
    · rw [act_eq_put rfl there, Broker.perform, fades.finished.shut, put_same there]
  case queues =>
    intro act serial
    rw [queue_eq (broker_act act there), queue_eq there]
    split
    · exact fades.finished.queue_suffix _ act serial
    · exact List.suffix_refl _
  case received =>
    intro serial held
    rw [queue_eq closed, received_finished closed finished serial held]
  case joined =>
    have capacity := fades.capacity.trans remains.capacity
    exact subscribe_finished there fades.finished (capacity ▸ fits)
  case others => exact (Beside.refl index network).acts closed finished later

/-- A broker is closed with one message queued. It is published on and subscribed to, and its bus is
shut down, and the message is still what the receiver finds first. -/
theorem final_closed_publishing : ∃ broker : Broker,
    ((initial [4] [] [.memory 0]).acts
      ((Chronicle.joining ++ Chronicle.publishing).map (.on 0))).brokers[0]? = some broker ∧
    broker.registry.capacity ≤ maxQueueCapacity ∧
    (((initial [4] [] [.memory 0]).acts
        ((Chronicle.joining ++ Chronicle.publishing).map (.on 0))).act (.on 0 (.close 0))).received
        ⟨0, 0⟩ [.on 0 (.publish 0 (.bare "created" "a")), .on 0 (.receive ⟨0, 0⟩),
          .on 0 (.subscribe 0 "a"), .on 0 .shutdown, .on 0 (.receive ⟨0, 0⟩)]
      = [.ok Chronicle.publishedEnvelope.data, .error .closed] := by
  have network := acts_initial 4 (Chronicle.joining ++ Chronicle.publishing)
  rw [Chronicle.network_publishing] at network
  have here := congrArg (·.brokers[0]?) network
  have fits : 1 ≤ maxQueueCapacity := by decide
  have final : Final (((initial [4] [] [.memory 0]).acts
      ((Chronicle.joining ++ Chronicle.publishing).map (.on 0))).act (.on 0 (.close 0))) 0
      [.on 0 (.publish 0 (.bare "created" "a")), .on 0 (.receive ⟨0, 0⟩),
        .on 0 (.subscribe 0 "a"), .on 0 .shutdown, .on 0 (.receive ⟨0, 0⟩)] :=
    final_closed (initial [4] [] [.memory 0]).fabric _ 0 here fits _
  have queued : Network.queue (((initial [4] [] [.memory 0]).acts
      ((Chronicle.joining ++ Chronicle.publishing).map (.on 0))).act (.on 0 (.close 0))) ⟨0, 0⟩
      = [Chronicle.publishedEnvelope.data] := by
    rw [network]
    rfl
  refine ⟨_, here, fits, ?_⟩
  rw [final.received 0 (by simp), queued]
  rfl

end Network

end Fanout
