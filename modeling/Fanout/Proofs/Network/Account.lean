import Mathlib.Data.List.Induction
import Fanout.Proofs.Network.Acts
import Fanout.Proofs.Network.Chronicle

/-! What the counters of a broker count. Each act that names the broker adds to them what it does,
and whatever is published, read or broadcast is on one side or the other of an equation that every
run keeps. All of it is meant modulo the width of the counters. -/

namespace Fanout

namespace Broker

variable {fabric : Fabric} {broker : Broker}

/-! ## What an act does -/

/-- Publishes while the broker is not closed. -/
def publishes (_ : Fabric) (broker : Broker) : Act → Nat
  | .on _ (.publish _ _) => if broker.closed then 0 else 1
  | _ => 0

/-- Writes that the bus takes. -/
def accepted (fabric : Fabric) (broker : Broker) : Act → Nat
  | .on _ (.publish _ event) =>
    match broker.closed, Envelope.sealEvent event with
    | false, .ok envelope => if broker.writes fabric envelope then 1 else 0
    | _, _ => 0
  | _ => 0

/-- What the broker broadcasts: a message that its loop finds, or an event that is published while
the bus takes no write or the loop is down. -/
def heard? (fabric : Fabric) (broker : Broker) : Act → Option Envelope
  | .on _ (.publish _ event) =>
    match broker.closed, Envelope.sealEvent event with
    | false, .ok envelope =>
      if broker.writes fabric envelope && broker.listening then none else some envelope
    | _, _ => none
  | .on _ (.turn _) =>
    (broker.inbound.stream?.bind fun stream => (fabric.next stream).value.2.item?).bind envelope?
  | _ => none

/-- Broadcasts that the loop makes. -/
def relays (fabric : Fabric) (broker : Broker) : Act → Nat
  | .on bus (.turn index) => if (broker.heard? fabric (.on bus (.turn index))).isSome then 1 else 0
  | _ => 0

/-- Registered clients that listen to what is broadcast. -/
def matched (fabric : Fabric) (broker : Broker) (act : Act) : Nat :=
  ((broker.heard? fabric act).map fun envelope => broker.registry.matching envelope.scope).getD 0

/-- Those of them whose receivers were given up. -/
def deserted (fabric : Fabric) (broker : Broker) (act : Act) : Nat :=
  ((broker.heard? fabric act).map fun envelope => broker.registry.deserted envelope.scope).getD 0

/-- Messages that a receiver takes. -/
def taken (_ : Fabric) (broker : Broker) : Act → Nat
  | .on _ (.receive id) => if (broker.registry.receive id.serial).2.isOk then 1 else 0
  | _ => 0

/-- Messages that are given up with a receiver. -/
def discarded (_ : Fabric) (broker : Broker) : Act → Nat
  | .on _ (.dropReceiver id) =>
    ((broker.registry.clients[id.serial]?).map (·.queue.length)).getD 0
  | _ => 0

/-! ## What an act leaves -/

/-- How many clients take what is broadcast. -/
def takers (broker : Broker) (heard : Option Envelope) : Nat :=
  (heard.map fun envelope => broker.registry.takers envelope.scope).getD 0

/-- How many clients have no room for it. -/
def refusals (broker : Broker) (heard : Option Envelope) : Nat :=
  (heard.map fun envelope => broker.registry.refusals envelope.scope).getD 0

/-- Each client that a broadcast is for takes it or has no room, or its receiver is gone. -/
theorem sum_matched (fabric : Fabric) (broker : Broker) (act : Act) :
    broker.takers (broker.heard? fabric act) + broker.refusals (broker.heard? fabric act)
        + broker.deserted fabric act = broker.matched fabric act := by
  unfold takers refusals deserted matched
  cases broker.heard? fabric act with
  | none => rfl
  | some envelope => exact broker.registry.sum_matching envelope.scope

/-- The counters and queues of a broker after an act agree with what the act did. -/
structure Books (fabric : Fabric) (broker : Broker) (act : Act) (after : Registry) : Prop where
  published : after.stats.serializationFailures + after.stats.busFallbacks
      + .ofNat (broker.accepted fabric act)
    = broker.stats.serializationFailures + broker.stats.busFallbacks
      + .ofNat (broker.publishes fabric act)
  received : after.stats.inboundReceived + broker.stats.decodeFailures
    = broker.stats.inboundReceived + after.stats.decodeFailures
      + .ofNat (broker.relays fabric act)
  delivered : after.stats.delivered
    = broker.stats.delivered + .ofNat (broker.takers (broker.heard? fabric act))
  droppedFull : after.stats.droppedFull
    = broker.stats.droppedFull + .ofNat (broker.refusals (broker.heard? fabric act))
  backlog : after.backlog + (broker.taken fabric act + broker.discarded fabric act)
    = broker.registry.backlog + broker.takers (broker.heard? fabric act)

variable {act : Act} {after : Registry}

/-- Nothing is counted, and nothing is broadcast. -/
theorem books_quiet (stats : after.stats = broker.stats)
    (silent : broker.heard? fabric act = none)
    (published : broker.accepted fabric act = broker.publishes fabric act)
    (relays : broker.relays fabric act = 0)
    (backlog : after.backlog + (broker.taken fabric act + broker.discarded fabric act)
      = broker.registry.backlog) : Books fabric broker act after := by
  constructor
  case published => rw [stats, published]
  case received =>
    rw [stats, relays]
    exact (UInt64.add_zero _).symm
  case delivered =>
    rw [stats, silent]
    exact (UInt64.add_zero _).symm
  case droppedFull =>
    rw [stats, silent]
    exact (UInt64.add_zero _).symm
  case backlog =>
    rw [silent]
    exact backlog

/-- What the broker has counted leaves its clients as they are. -/
theorem books_tally {f : Stats → Stats} (silent : broker.heard? fabric act = none)
    (kept : broker.taken fabric act + broker.discarded fabric act = 0)
    (delivered : (f broker.stats).delivered = broker.stats.delivered)
    (droppedFull : (f broker.stats).droppedFull = broker.stats.droppedFull)
    (published : (f broker.stats).serializationFailures + (f broker.stats).busFallbacks
        + .ofNat (broker.accepted fabric act)
      = broker.stats.serializationFailures + broker.stats.busFallbacks
        + .ofNat (broker.publishes fabric act))
    (received : (f broker.stats).inboundReceived + broker.stats.decodeFailures
      = broker.stats.inboundReceived + (f broker.stats).decodeFailures
        + .ofNat (broker.relays fabric act)) :
    Books fabric broker act (broker.tally f).registry := by
  constructor
  case published => exact published
  case received => exact received
  case delivered =>
    rw [silent]
    exact delivered.trans (UInt64.add_zero _).symm
  case droppedFull =>
    rw [silent]
    exact droppedFull.trans (UInt64.add_zero _).symm
  case backlog =>
    rw [silent, kept]
    rfl

/-- What the broker has counted comes before what its clients are told. -/
theorem books_broadcast {f : Stats → Stats} {envelope : Envelope}
    (heard : broker.heard? fabric act = some envelope)
    (kept : broker.taken fabric act + broker.discarded fabric act = 0)
    (delivered : (f broker.stats).delivered = broker.stats.delivered)
    (droppedFull : (f broker.stats).droppedFull = broker.stats.droppedFull)
    (published : (f broker.stats).serializationFailures + (f broker.stats).busFallbacks
        + .ofNat (broker.accepted fabric act)
      = broker.stats.serializationFailures + broker.stats.busFallbacks
        + .ofNat (broker.publishes fabric act))
    (received : (f broker.stats).inboundReceived + broker.stats.decodeFailures
      = broker.stats.inboundReceived + (f broker.stats).decodeFailures
        + .ofNat (broker.relays fabric act)) :
    Books fabric broker act
      ((broker.tally f).broadcast envelope.data envelope.scope).value.1.registry := by
  have stats : ((broker.tally f).broadcast envelope.data envelope.scope).value.1.registry.stats
      = { f broker.stats with
        delivered := (f broker.stats).delivered + .ofNat (broker.registry.takers envelope.scope)
        droppedFull := (f broker.stats).droppedFull
          + .ofNat (broker.registry.refusals envelope.scope) } :=
    Registry.broadcast_stats ..
  constructor
  case published =>
    rw [stats]
    exact published
  case received =>
    rw [stats]
    exact received
  case delivered =>
    rw [stats, delivered, heard]
    rfl
  case droppedFull =>
    rw [stats, droppedFull, heard]
    rfl
  case backlog =>
    rw [kept, heard]
    exact Registry.backlog_broadcast ..

theorem books_published (fabric : Fabric) (broker : Broker) (bus index : Nat)
    (event : Event Payload) : Books fabric broker (.on bus (.publish index event))
      (broker.published fabric event).2.registry := by
  cases closed : broker.closed with
  | true =>
    rw [published_closed closed]
    apply books_tally (f := fun s => s)
    case kept | delivered | droppedFull => rfl
    case silent => simp [heard?, closed]
    case published => simp [accepted, publishes, closed]
    case received => simp [relays]
  | false =>
    cases sealed : Envelope.sealEvent event with
    | error fault =>
      rw [published_error closed sealed]
      dsimp only
      apply books_tally
      case kept | delivered | droppedFull => rfl
      case silent => simp [heard?, closed, sealed]
      case published =>
        simp only [accepted, publishes, closed, sealed]
        grind
      case received => simp [relays]
    | ok envelope =>
      rw [published_sealed closed sealed]
      cases taken : broker.writes fabric envelope with
      | false =>
        apply books_broadcast
        case kept | delivered | droppedFull => rfl
        case heard => simp [heard?, closed, sealed, taken]
        case published =>
          simp only [accepted, publishes, closed, sealed, taken]
          grind
        case received => simp [relays]
      | true =>
        cases listening : broker.listening with
        | true =>
          apply books_tally (f := fun s => s)
          case kept | delivered | droppedFull => rfl
          case silent => simp [heard?, closed, sealed, taken, listening]
          case published => simp [accepted, publishes, closed, sealed, taken]
          case received => simp [relays]
        | false =>
          apply books_broadcast (f := fun s => s)
          case kept | delivered | droppedFull => rfl
          case heard => simp [heard?, closed, sealed, listening]
          case published => simp [accepted, publishes, closed, sealed, taken]
          case received => simp [relays]

theorem books_item {bus index : Nat} {fabric' : Fabric} {stream : Stream} (item : BusItem)
    (heard : broker.heard? fabric (.on bus (.turn index)) = envelope? item) :
    Books fabric broker (.on bus (.turn index))
      (broker.found fabric' stream (.item item)).2.registry := by
  have relays : broker.relays fabric (.on bus (.turn index))
      = if (envelope? item).isSome then 1 else 0 := by
    rw [Broker.relays, heard]
  cases item with
  | lagged lost =>
    have left : (broker.found fabric' stream (.item (.lagged lost))).2.registry
        = (broker.tally fun s => { s with busLagged := s.busLagged + .ofNat lost }).registry := rfl
    rw [left]
    apply books_tally
    case silent => exact heard
    case kept | delivered | droppedFull | published => rfl
    case received => simp [relays, envelope?]
  | message message =>
    cases decoded : Envelope.decode message with
    | error fault =>
      have nothing : envelope? (.message message) = none := by
        rw [envelope?, decoded]
        rfl
      have left : (broker.found fabric' stream (.item (.message message))).2.registry
          = (broker.tally fun s => { s with
            inboundReceived := s.inboundReceived + 1
            decodeFailures := s.decodeFailures + 1 }).registry := by
        rw [found, take_malformed _ decoded]
        rfl
      rw [left]
      apply books_tally
      case silent => exact heard.trans nothing
      case kept | delivered | droppedFull | published => rfl
      case received =>
        rw [relays, nothing, if_neg (by simp)]
        grind
    | ok envelope =>
      have something : envelope? (.message message) = some envelope := by
        rw [envelope?, decoded]
        rfl
      have left : (broker.found fabric' stream (.item (.message message))).2.registry
          = ((broker.tally fun s => { s with inboundReceived := s.inboundReceived + 1 }).broadcast
            envelope.data envelope.scope).value.1.registry := by
        rw [found, take_message _ decoded]
        rfl
      rw [left]
      apply books_broadcast
      case heard => exact heard.trans something
      case kept | delivered | droppedFull | published => rfl
      case received =>
        rw [relays, something, if_pos Option.isSome_some]
        grind

theorem books_turned (fabric : Fabric) (broker : Broker) (bus index : Nat) :
    Books fabric broker (.on bus (.turn index)) (broker.turned fabric).2.registry := by
  cases stream : broker.inbound.stream? with
  | none =>
    have silent : broker.heard? fabric (.on bus (.turn index)) = none := by
      simp [heard?, stream]
    rw [turned_idle stream]
    apply books_quiet
    case silent => exact silent
    case stats | published | backlog => rfl
    case relays => simp [relays, silent]
  | some found =>
    rw [turned_stream stream]
    have heard : broker.heard? fabric (.on bus (.turn index))
        = ((fabric.next found).value.2.item?).bind envelope? := by
      simp [heard?, stream]
    generalize (fabric.next found).value.2 = next at heard ⊢
    cases next with
    | pending | ended =>
      apply books_quiet
      case silent => exact heard
      case stats | published | backlog => rfl
      case relays => simp only [relays, heard, Next.item?, Option.bind_none, Option.isSome_none,
        Bool.false_eq_true, if_false]
    | item item => exact books_item item heard

/-- What is done to one client's queue is in the books if what left the queue is. -/
theorem books_onClient {serial : Nat} {f : Client → Client}
    (silent : broker.heard? fabric act = none)
    (published : broker.accepted fabric act = broker.publishes fabric act)
    (relays : broker.relays fabric act = 0)
    (left : ((broker.registry.clients[serial]?).map (·.queue.length)).getD 0
      = ((broker.registry.clients[serial]?).map fun client => (f client).queue.length).getD 0
        + (broker.taken fabric act + broker.discarded fabric act)) :
    Books fabric broker act (broker.onClient serial f).registry := by
  have updated := broker.registry.backlog_update serial f
  have same : (broker.onClient serial f).registry = broker.registry.update serial f := rfl
  rw [same]
  apply books_quiet
  case stats => rfl
  case silent => exact silent
  case published => exact published
  case relays => exact relays
  case backlog => omega

theorem backlog_closeAll (registry : Registry) :
    registry.closeAll.value.backlog = registry.backlog := by
  rw [Registry.closeAll_value, Registry.backlog, List.flatMap_map]
  rfl

/-- Whatever is done to a broker is in its books. -/
theorem books_perform (fabric : Fabric) (broker : Broker) (act : Act) :
    Books fabric broker act (broker.perform fabric act).2.registry := by
  cases act with
  | closing j | stop bus => exact books_quiet rfl rfl rfl rfl rfl
  | on bus step =>
    cases step with
    | publish j event => exact books_published fabric broker bus j event
    | turn j => exact books_turned fabric broker bus j
    | start config | write channel message | shutdown => exact books_quiet rfl rfl rfl rfl rfl
    | subscribe j filter =>
      rw [perform_subscribe]
      apply books_quiet
      case backlog =>
        simp only [joined, Registry.backlog, taken, discarded, List.flatMap_append]
        split <;> simp [Client.opened]
      all_goals rfl
    | close j =>
      have left : (broker.shut fabric).2.registry = broker.registry.closeAll.value := by
        unfold shut
        cases broker.inbound.stream? <;> rfl
      simp only [perform, left]
      apply books_quiet
      case stats =>
        rw [Registry.closeAll_value]
        rfl
      case backlog => exact backlog_closeAll broker.registry
      all_goals rfl
    | unsubscribe id | dropHandle id => exact books_onClient rfl rfl rfl rfl
    | dropReceiver id =>
      apply books_onClient rfl rfl rfl
      simp only [taken, discarded, Client.dropReceiver]
      cases broker.registry.clients[id.serial]? <;> simp
    | receive id =>
      apply books_onClient rfl rfl rfl
      simp only [taken, discarded, Registry.receive_snd, Client.receive_fst]
      cases broker.registry.clients[id.serial]? with
      | none => rfl
      | some client =>
        obtain ⟨filter, registered, receiving, held, queue⟩ := client
        cases queue <;> rfl

end Broker

/-! ## Runs -/

namespace Network

variable {network : Network} {index : Nat} {broker : Broker}

/-- What is counted at a broker in the acts that name it. -/
def ofBroker (index : Nat) (count : Fabric → Broker → Act → Nat) (network : Network) (act : Act) :
    Nat :=
  match network.brokers[index]? with
  | some broker => if act.broker? = some index then count network.fabric broker act else 0
  | none => 0

theorem sum_ofBroker_zero (network : Network) (index : Nat) (acts : List Act) :
    network.sum (ofBroker index fun _ _ _ => 0) acts = 0 := by
  induction acts generalizing network with
  | nil => rfl
  | cons act acts rest =>
    rw [sum, rest, ofBroker]
    cases network.brokers[index]? <;> simp

theorem sum_ofBroker_add (first second : Fabric → Broker → Act → Nat) (network : Network)
    (index : Nat) (acts : List Act) :
    network.sum (ofBroker index fun fabric broker act =>
        first fabric broker act + second fabric broker act) acts
      = network.sum (ofBroker index first) acts + network.sum (ofBroker index second) acts := by
  induction acts generalizing network with
  | nil => rfl
  | cons act acts rest =>
    have one : ofBroker index (fun fabric broker act =>
        first fabric broker act + second fabric broker act) network act
        = ofBroker index first network act + ofBroker index second network act := by
      unfold ofBroker
      split
      · split <;> rfl
      · rfl
    simp only [sum, rest, one]
    omega

/-- Nothing is counted at a broker that has not been started. -/
theorem sum_ofBroker_absent (count : Fabric → Broker → Act → Nat) {acts : List Act}
    (absent : (network.acts acts).brokers[index]? = none) :
    network.sum (ofBroker index count) acts = 0 := by
  induction acts using List.reverseRecOn with
  | nil => rfl
  | append_singleton acts act earlier =>
    have before : (network.acts acts).brokers[index]? = none := by
      cases there : (network.acts acts).brokers[index]? with
      | none => rfl
      | some broker =>
        rw [acts_concat, broker_act act there] at absent
        contradiction
    simp only [sum_concat, earlier before, ofBroker, before]

/-- An equation that every act keeps at the broker it names, and that holds of a new broker, holds
at the end of every run. -/
theorem balanced (value : Registry → UInt64) (debit credit : Fabric → Broker → Act → Nat)
    (new : ∀ number capacity, value (.new number capacity) = 0)
    (kept : ∀ fabric broker act, value (broker.perform fabric act).2.registry
        + .ofNat (credit fabric broker act)
      = value broker.registry + .ofNat (debit fabric broker act))
    (nobody : network.brokers = []) (acts : List Act)
    (here : (network.acts acts).brokers[index]? = some broker) :
    value broker.registry + .ofNat (network.sum (ofBroker index credit) acts)
      = .ofNat (network.sum (ofBroker index debit) acts) := by
  induction acts using List.reverseRecOn generalizing broker with
  | nil => simp [Network.acts, nobody] at here
  | append_singleton acts act earlier =>
    rw [acts_concat] at here
    rw [sum_concat, sum_concat, UInt64.ofNat_add, UInt64.ofNat_add]
    cases there : (network.acts acts).brokers[index]? with
    | none =>
      rw [sum_ofBroker_absent credit there, sum_ofBroker_absent debit there, ofBroker, ofBroker,
        there]
      rcases broker_before here with ⟨before, there'⟩ | ⟨bus, config, rfl, same, rfl⟩
      · rw [there] at there'
        contradiction
      · rw [Broker.fresh_registry, new]
        rfl
    | some before =>
      have balance := earlier there
      have after := broker_act act there
      cases here.symm.trans after
      simp only [ofBroker, there]
      split
      · have same := kept (network.acts acts).fabric before act
        grind
      · grind

end Network

end Fanout
