import Fanout.Proofs.Network.Closing

/-! A broker listens exactly as long as its inbound loop can bring back what is written: from a
subscription that succeeds to the end of the loop, which is the end of its stream or the close of
the broker. What is published meanwhile is broadcast at once only where the bus takes no write. -/

namespace Fanout

/-- Whether an act ends the inbound loop of a broker, which finds this on its stream: the loop comes
to the end of the stream, or the broker is closed. -/
def Act.endsLoop (index : Nat) (next : Option Next) : Act → Bool
  | .on _ (.turn turning) => turning = index && next = some .ended
  | .on _ (.close closed) => closed = index
  | _ => false

namespace Broker

variable {fabric : Fabric} {broker : Broker} {index : Nat} {act : Act}

/-- What the loop would find on its stream now, nothing where there is no loop. -/
def next? (fabric : Fabric) (broker : Broker) : Option Next :=
  broker.inbound.stream?.map fun stream => (fabric.next stream).value.2

theorem next?_stream {stream : Stream} (reads : broker.inbound.stream? = some stream)
    (fabric : Fabric) : broker.next? fabric = some (fabric.next stream).value.2 := by
  rw [next?, reads, Option.map_some]

/-- An act that does not name the broker cannot end its loop. -/
theorem endsLoop_of_other {next : Option Next} (other : act.broker? ≠ some index) :
    act.endsLoop index next = false := by
  cases act with
  | closing j | stop bus => rfl
  | on bus step =>
    cases step with
    | turn j =>
      have different : j ≠ index := fun same => other (congrArg some same)
      simp [Act.endsLoop, different]
    | close j => exact decide_eq_false fun same => other (congrArg some same)
    | start | write | shutdown | publish | subscribe | unsubscribe | dropHandle | dropReceiver
    | receive => rfl

theorem listening_published (fabric : Fabric) (broker : Broker) (event : Event Payload) :
    (broker.published fabric event).2.listening = broker.listening := by
  unfold published
  split
  · rfl
  split
  · rfl
  split
  · split <;> rfl
  · rfl

theorem inbound_take (broker : Broker) (item : BusItem) :
    (broker.take item).value.inbound = broker.inbound := by
  cases item with
  | lagged lost => rfl
  | message message =>
    cases decoded : Envelope.decode message with
    | error fault => rw [take_malformed broker decoded, tally]
    | ok envelope =>
      rw [take_message broker decoded]
      rfl

/-- A turn puts the flag down where the loop ends, and leaves it otherwise. -/
theorem listening_turned (flag : broker.listening = broker.inbound.stream?.isSome)
    (fabric : Fabric) : (broker.turned fabric).2.listening
      = (broker.listening && !decide (broker.next? fabric = some .ended)) := by
  cases reads : broker.inbound.stream? with
  | none =>
    rw [turned_idle reads, flag, reads]
    rfl
  | some stream =>
    rw [turned_stream reads, next?_stream reads]
    cases (fabric.next stream).value.2 with
    | pending => exact (Bool.and_true _).symm
    | item item =>
      obtain ⟨stays, _⟩ := take_spec { broker with inbound := .running stream } item
      exact stays.listening.trans (Bool.and_true _).symm
    | ended => exact (Bool.and_false _).symm

/-- An act on the broker leaves the flag unless it ends the loop. -/
theorem listening_perform (flag : broker.listening = broker.inbound.stream?.isSome)
    (names : act.broker? = some index) (fabric : Fabric) :
    (broker.perform fabric act).2.listening
      = (broker.listening && !act.endsLoop index (broker.next? fabric)) := by
  cases act with
  | closing j | stop bus => exact (Bool.and_true _).symm
  | on bus step =>
    cases step with
    | turn j =>
      cases names
      simp only [Act.endsLoop, decide_true, Bool.true_and]
      exact listening_turned flag fabric
    | close j =>
      cases names
      simp only [Act.endsLoop, decide_true, Bool.not_true, Bool.and_false]
      exact (finished_shut fabric flag).down
    | publish j event =>
      refine (listening_published fabric broker event).trans (Bool.and_true _).symm
    | start | write | shutdown | unsubscribe | dropHandle | dropReceiver | receive =>
      exact (Bool.and_true _).symm
    | subscribe j filter =>
      rw [perform_subscribe]
      exact (Bool.and_true _).symm

/-! ## What is published -/

/-- What is left of a broker when an event was published on it: it is broadcast at once, by one
broadcast, unless the bus takes the message and the loop will bring it back. -/
def atOnce (fabric : Fabric) (broker : Broker) (envelope : Envelope) : Broker :=
  if broker.listening && broker.writes fabric envelope then broker
  else ((broker.tally fun s => { s with
    busFallbacks := s.busFallbacks + if broker.writes fabric envelope then 0 else 1 }).broadcast
      envelope.data envelope.scope).value.1

theorem published_atOnce (running : broker.closed = false) {event : Event Payload}
    {envelope : Envelope} (sealed : Envelope.sealEvent event = .ok envelope) (fabric : Fabric) :
    (broker.published fabric event).2 = broker.atOnce fabric envelope := by
  rw [published_sealed running sealed, atOnce]
  cases broker.writes fabric envelope with
  | false =>
    rw [Bool.and_false]
    rfl
  | true =>
    cases broker.listening with
    | true => rfl
    | false =>
      have untouched : broker.tally (fun s => { s with busFallbacks := s.busFallbacks + 0 })
          = broker := by
        simp only [tally, UInt64.add_zero]
      simp only [Bool.false_and, Bool.false_eq_true, if_false, if_true, untouched]

/-- Every client of the broker hears such a broadcast once, and no other. -/
theorem clients_atOnce (fabric : Fabric) (broker : Broker) (envelope : Envelope) :
    (broker.atOnce fabric envelope).registry.clients
      = if broker.listening && broker.writes fabric envelope then broker.registry.clients
        else broker.registry.clients.map
          (·.hear broker.registry.capacity envelope.data envelope.scope) := by
  unfold atOnce
  split
  · rfl
  · exact (Registry.hears_broadcast ..).clients

end Broker

namespace Network

variable {network : Network} {index : Nat} {broker : Broker}

/-- What the loop of a broker would find on its stream now. -/
def next? (network : Network) (index : Nat) : Option Next :=
  (network.brokers[index]?).bind (·.next? network.fabric)

/-- Whether the inbound loop of a broker was ended by some act of a run. -/
def loopEnded (index : Nat) (network : Network) : List Act → Bool
  | [] => false
  | act :: acts => act.endsLoop index (network.next? index) || loopEnded index (network.act act) acts

/-- After any run the flag is up if it was up and no act has ended the loop. -/
theorem listening_run (here : network.brokers[index]? = some broker)
    (flag : broker.listening = broker.inbound.stream?.isSome) (later : List Act) :
    ∃ left, (network.acts later).brokers[index]? = some left ∧
      left.listening = left.inbound.stream?.isSome ∧
      left.listening = (broker.listening && !network.loopEnded index later) := by
  induction later generalizing network broker with
  | nil => exact ⟨broker, here, flag, (Bool.and_true _).symm⟩
  | cons act later rest =>
    have found : network.next? index = broker.next? network.fabric := by
      rw [next?, here, Option.bind_some]
    have there := broker_act act here
    by_cases names : act.broker? = some index
    · rw [if_pos names] at there
      have step := broker.listening_perform flag names network.fabric
      have kept : (broker.perform network.fabric act).2.listening
          = (broker.perform network.fabric act).2.inbound.stream?.isSome := by
        rcases (broker.remains_perform network.fabric act).loop with ⟨stream, same⟩ | ⟨gone, down⟩
        · rw [same, stream, flag]
        · rw [down, gone]
          rfl
      obtain ⟨left, reached, exact, up⟩ := rest there kept
      refine ⟨left, reached, exact, ?_⟩
      rw [up, step, loopEnded, found, Bool.not_or, Bool.and_assoc]
    · rw [if_neg names] at there
      obtain ⟨left, reached, exact, up⟩ := rest there flag
      refine ⟨left, reached, exact, ?_⟩
      rw [up, loopEnded, Broker.endsLoop_of_other names, Bool.false_or]

/-- A server that is shut off ends the loop behind it. -/
example : (((initial [] [.new .relay] [.server 0 false]).acts
    [.on 0 (.start ⟨"room", 1⟩), .stop 0, .on 0 (.turn 0)]).brokers.map (·.listening)) = [false] := by
  rfl

/-- A broker that does not listen never does again. -/
theorem never_listens (here : network.brokers[index]? = some broker)
    (down : broker.listening = false) (later : List Act) :
    ∃ left, (network.acts later).brokers[index]? = some left ∧ left.listening = false := by
  induction later generalizing network broker with
  | nil => exact ⟨broker, here, down⟩
  | cons act later rest =>
    have there := broker_act act here
    split at there
    · refine rest there ?_
      rcases (broker.remains_perform network.fabric act).loop with ⟨_, same⟩ | ⟨_, gone⟩
      · exact same.trans down
      · exact gone
    · exact rest there down

/-- The listening flag of a broker, in a state between two acts. -/
structure ListensExactly (network : Network) (index : Nat) (broker : Broker) : Prop where
  /-- There is a loop to bring back what is written. -/
  loop : broker.listening = broker.inbound.stream?.isSome
  /-- A flag that is down is never put up again. -/
  lost : broker.listening = false → ∀ later, ∃ left,
    (network.acts later).brokers[index]? = some left ∧ left.listening = false
  /-- No item ends the loop, neither a notice of loss nor a message, be it malformed or not. -/
  items : ∀ stream item, broker.inbound.stream? = some stream →
    (network.fabric.next stream).value.2 = .item item → ∀ bus, ∃ left,
      (network.act (.on bus (.turn index))).brokers[index]? = some left ∧
      left.inbound = .running stream ∧ left.listening = true
  /-- What is published is broadcast at once, by one broadcast to the clients of this broker, if the
  flag is down or the bus does not take the message, and else not at all. -/
  published : broker.closed = false → ∀ event envelope,
    Envelope.sealEvent event = .ok envelope → ∀ bus,
      network.act (.on bus (.publish index event))
        = ⟨(network.fabric.write broker.bus broker.channel envelope.encode).value.1,
          network.brokers.set index (broker.atOnce network.fabric envelope)⟩ ∧
      (broker.atOnce network.fabric envelope).registry.clients
        = if broker.listening && broker.writes network.fabric envelope
          then broker.registry.clients
          else broker.registry.clients.map
            (·.hear broker.registry.capacity envelope.data envelope.scope)

/-- In every state that can be reached, on any buses, the listening flag of a broker says that its
subscription has succeeded and that nothing has ended its loop since. -/
theorem listening_exact (fabric : Fabric) (acts : List Act)
    (here : ((⟨fabric, []⟩ : Network).acts acts).brokers[index]? = some broker) :
    (∃ before bus config later, acts = before ++ .on bus (.start config) :: later ∧
      ((⟨fabric, []⟩ : Network).acts before).brokers.length = index) ∧
    (∀ before bus config later, acts = before ++ .on bus (.start config) :: later →
      ((⟨fabric, []⟩ : Network).acts before).brokers.length = index →
      (broker.listening = true ↔
        (((⟨fabric, []⟩ : Network).acts before).fabric.subscribe bus
          config.channel).value.2.isOk = true ∧
        (((⟨fabric, []⟩ : Network).acts before).act (.on bus (.start config))).loopEnded index
          later = false)) ∧
    ListensExactly ((⟨fabric, []⟩ : Network).acts acts) index broker := by
  have flag := listening_acts fabric here
  refine ⟨?_, ?_, ?_⟩
  · rcases exists_start here with ⟨first, there⟩ | started
    · simp at there
    · exact started
  · rintro before bus config later rfl rfl
    rw [acts_append, acts, List.foldl_cons, ← acts] at here
    generalize (⟨fabric, []⟩ : Network).acts before = network at here ⊢
    have born : (network.act (.on bus (.start config))).brokers[network.brokers.length]?
        = some (.fresh bus network.brokers.length config
          (network.fabric.subscribe bus config.channel).value.2) := by
      rw [act_start, List.getElem?_concat_length]
    generalize (network.fabric.subscribe bus config.channel).value.2 = opened at born ⊢
    have up : (Broker.fresh bus network.brokers.length config opened).listening = opened.isOk := by
      cases opened <;> rfl
    have agrees : (Broker.fresh bus network.brokers.length config opened).listening
        = (Broker.fresh bus network.brokers.length config opened).inbound.stream?.isSome := by
      cases opened <;> rfl
    obtain ⟨left, reached, _, exact⟩ := listening_run born agrees later
    cases here.symm.trans reached
    rw [exact, up, Bool.and_eq_true, Bool.not_eq_true']
  · constructor
    case loop => exact flag
    case lost => exact never_listens here
    case items =>
      intro stream item reads found bus
      have there := broker_act (.on bus (.turn index)) here
      obtain ⟨stays, _⟩ := Broker.take_spec { broker with inbound := .running stream } item
      have names : (Act.on bus (.turn index)).broker? = some index := rfl
      rw [if_pos names, Broker.perform, Broker.turned_stream reads, found] at there
      refine ⟨_, there, Broker.inbound_take .., ?_⟩
      rw [Broker.found, stays.listening, flag, reads]
      rfl
    case published =>
      intro running event envelope sealed bus
      refine ⟨?_, Broker.clients_atOnce ..⟩
      rw [act_eq_put rfl here, Broker.perform, put, Broker.published_atOnce running sealed,
        Broker.published_sealed running sealed]

/-- A broker has subscribed, and its loop has read one message. -/
theorem listening_exact_publishing : ∃ broker : Broker,
    ((initial [4] [] [.memory 0]).acts
      ((Chronicle.joining ++ Chronicle.publishing).map (.on 0))).brokers[0]? = some broker ∧
    ListensExactly ((initial [4] [] [.memory 0]).acts
      ((Chronicle.joining ++ Chronicle.publishing).map (.on 0))) 0 broker := by
  have network := acts_initial 4 (Chronicle.joining ++ Chronicle.publishing)
  rw [Chronicle.network_publishing] at network
  have here := congrArg (·.brokers[0]?) network
  exact ⟨_, here, (listening_exact (initial [4] [] [.memory 0]).fabric _ here).2.2⟩

end Network

end Fanout
