import Fanout.Proofs.Network.Account
import Fanout.Proofs.Network.Completeness
import Fanout.Proofs.Network.Stream

/-! The ledger of a broker. In every state that brokers can come to on hubs and on buses that fail,
each counter is accounted for: by what was published, by what was written to the channel, and by
what became of every message at every client. -/

namespace Fanout

namespace Fabric

variable {fabric after : Fabric}

theorem Alike.ends (alike : fabric.Alike after) (hub : Nat) (act : Act) :
    after.ends hub act = fabric.ends hub act := by
  cases act with
  | closing j | stop bus => rfl
  | on bus step =>
    cases step with
    | shutdown => rw [Fabric.ends, alike.hub?, Fabric.ends]
    | start | write | publish | turn | subscribe | close | unsubscribe | dropHandle | dropReceiver
    | receive => rfl

end Fabric

namespace Network

variable {network : Network} {index hub : Nat} {broker : Broker} {stream : Stream}

/-- Buses in front of hubs that nothing was written to, and no broker. -/
def initial (capacities : List Nat) (servers : List Server) (buses : List Bus) : Network :=
  ⟨⟨capacities.map .new, servers, buses⟩, []⟩

theorem tidy_initial (capacities : List Nat) (servers : List Server) (buses : List Bus) :
    (initial capacities servers buses).Tidy := by
  constructor
  case sane =>
    intro hub memory here
    simp only [initial, List.getElem?_map, Option.map_eq_some_iff] at here
    obtain ⟨capacity, _, rfl⟩ := here
    exact Hub.sane_new capacity
  case reads => simp [initial]
  case alone => simp [initial]

theorem Tidy.acts (tidy : network.Tidy) (acts : List Act) : (network.acts acts).Tidy := by
  induction acts generalizing network with
  | nil => exact tidy
  | cons act acts rest => exact rest (tidy.act act)

theorem alike_acts (network : Network) (acts : List Act) :
    network.fabric.Alike (network.acts acts).fabric := by
  induction acts generalizing network with
  | nil => exact .refl network.fabric
  | cons act acts rest => exact (network.alike_act act).trans (rest (network.act act))

theorem exists_acts (acts : List Act) (here : network.brokers[index]? = some broker) :
    ∃ after, (network.acts acts).brokers[index]? = some after := by
  obtain ⟨after, there, _⟩ :=
    broker_induction (motive := fun _ => True) here trivial (fun _ _ _ kept => kept) acts
  exact ⟨after, there⟩

/-! ## What came through the channel -/

/-- What was written to the channel of a broker before an act ended it. -/
def arrived (hub : Nat) (channel : String) (network : Network) (acts : List Act) : Nat :=
  network.sum (wrote hub channel) (acts.takeWhile fun act => !network.fabric.ends hub act)

theorem arrived_concat (hub : Nat) (channel : String) (network : Network) (acts : List Act)
    (act : Act) : network.arrived hub channel (acts ++ [act])
      = network.arrived hub channel acts
        + if acts.all fun act => !network.fabric.ends hub act then
            (network.acts acts).wrote hub channel act else 0 := by
  have shutdown (ends : network.fabric.ends hub act = true) :
      (network.acts acts).wrote hub channel act = 0 := by
    cases act with
    | closing j | stop bus => contradiction
    | on bus step =>
      cases step with
      | shutdown => rfl
      | start | write | publish | turn | subscribe | close | unsubscribe | dropHandle
      | dropReceiver | receive => contradiction
  rw [arrived, takeWhile_concat, arrived]
  cases going : acts.all fun act => !network.fabric.ends hub act with
  | false => simp
  | true =>
    rw [takeWhile_of_all going]
    cases ends : network.fabric.ends hub act with
    | true => simp [shutdown ends]
    | false => simp [sum_concat]

/-- What has come through the channel since the loop opened its stream was read or lost by the loop,
or is still to come. -/
theorem Tidy.sees_acts (tidy : network.Tidy) (bus : Nat) (config : BrokerConfig) (acts : List Act)
    (here : ((network.act (.on bus (.start config))).acts acts).brokers[network.brokers.length]?
      = some broker)
    (reads : broker.inbound.stream? = some stream) (on : stream.hub? = some hub) :
    ∃ left, ((network.act (.on bus (.start config))).acts acts).fabric.Sees stream broker.channel
        (acts.all fun act => !(network.act (.on bus (.start config))).fabric.ends hub act) left ∧
      broker.passed + .ofNat left
        = .ofNat ((network.act (.on bus (.start config))).arrived hub broker.channel acts) := by
  have new : (network.act (.on bus (.start config))).brokers[network.brokers.length]?
      = some (.fresh bus network.brokers.length config
        (network.fabric.subscribe bus config.channel).value.2) := by
    rw [act_start, List.getElem?_concat_length]
  induction acts using List.reverseRecOn generalizing broker with
  | nil =>
    cases new.symm.trans here
    obtain ⟨⟨_, sees⟩, _⟩ := tidy.fresh reads
    refine ⟨0, ?_, ?_⟩
    · rw [Broker.fresh_channel]
      exact sees (by simp [on])
    · rw [Broker.passed, Broker.stats, Broker.fresh_registry]
      rfl
  | append_singleton acts act earlier =>
    have tidy' := (tidy.act (.on bus (.start config))).acts acts
    have alike := alike_acts (network.act (.on bus (.start config))) acts
    rw [acts_concat] at here ⊢
    obtain ⟨before, there⟩ := exists_acts acts new
    obtain ⟨reads', remains, follows⟩ := tidy'.follows act there here reads
    obtain ⟨left, sees, passed⟩ := earlier there reads'
    obtain ⟨left', sees', passed'⟩ := follows hub on _ left sees
    refine ⟨left', ?_, ?_⟩
    · rw [remains.channel, List.all_append]
      simpa [alike.ends] using sees'
    · rw [remains.channel, arrived_concat, passed', UInt64.ofNat_add, UInt64.ofNat_add, ← passed,
        UInt64.add_assoc]

/-! ## The ledger -/

/-- What was counted at a broker in a run, in all. -/
def total (index : Nat) (count : Fabric → Broker → Act → Nat) (network : Network)
    (acts : List Act) : UInt64 :=
  .ofNat (network.sum (ofBroker index count) acts)

/-- Every counter of a broker is accounted for by what happened in the run. -/
structure Balanced (network : Network) (acts : List Act) (index : Nat) (broker : Broker) :
    Prop where
  /-- An event that is published fails to be serialized, or finds the bus failing, or is written. -/
  published : network.total index Broker.publishes acts
    = broker.stats.serializationFailures + broker.stats.busFallbacks
      + network.total index Broker.accepted acts
  /-- A failure to serialize is counted, and nothing else is changed anywhere. -/
  unserialized : ∀ bus event error, broker.closed = false →
    Envelope.sealEvent event = .error error →
    (network.acts acts).act (.on bus (.publish index event)) = (network.acts acts).setBroker index
      (broker.tally fun s => { s with serializationFailures := s.serializationFailures + 1 })
  /-- A message off the bus is malformed, or is broadcast by the loop. -/
  received : broker.stats.inboundReceived
    = broker.stats.decodeFailures + network.total index Broker.relays acts
  /-- What was written to the channel since the broker subscribed, until the bus was shut down, is
  received, reported as lost, or still to come. -/
  arrived : ∃ before bus config later, acts = before ++ .on bus (.start config) :: later ∧
    (network.acts before).brokers.length = index ∧ ∀ hub stream,
      (network.acts acts).fabric.hub? broker.bus = some hub →
      broker.inbound.stream? = some stream →
      .ofNat ((network.acts (before ++ [.on bus (.start config)])).arrived hub broker.channel later)
        = broker.stats.inboundReceived + broker.stats.busLagged
          + .ofNat ((network.acts acts).fabric.unread stream)
  /-- A broadcast is delivered to a client that it is for, or dropped, or finds no receiver. -/
  offered : network.total index Broker.matched acts
    = broker.stats.delivered + broker.stats.droppedFull + network.total index Broker.deserted acts
  /-- What was delivered was taken, or is still queued, or was given up with its receiver. -/
  delivered : broker.stats.delivered
    = network.total index Broker.taken acts + .ofNat broker.registry.backlog
      + network.total index Broker.discarded acts

/-- The ledger of every broker is balanced in every state that can be reached, whatever buses there
are in front of whatever hubs. -/
theorem balanced_acts (capacities : List Nat) (servers : List Server) (buses : List Bus)
    (acts : List Act)
    (here : ((initial capacities servers buses).acts acts).brokers[index]? = some broker) :
    (initial capacities servers buses).Balanced acts index broker := by
  have books (fabric : Fabric) (broker : Broker) (act : Act) := broker.books_perform fabric act
  constructor
  case published =>
    have balance := balanced (fun r => r.stats.serializationFailures + r.stats.busFallbacks)
      Broker.publishes Broker.accepted (fun _ _ => rfl)
      (fun fabric broker act => (books fabric broker act).published) rfl acts here
    exact balance.symm
  case unserialized =>
    intro bus event error running failed
    rw [act_eq_put rfl here]
    simp only [Broker.perform, Broker.published_error running failed]
    rfl
  case received =>
    have kept (fabric : Fabric) (broker : Broker) (act : Act) :
        (broker.perform fabric act).2.registry.stats.inboundReceived
            - (broker.perform fabric act).2.registry.stats.decodeFailures + .ofNat 0
          = broker.registry.stats.inboundReceived - broker.registry.stats.decodeFailures
            + .ofNat (broker.relays fabric act) := by
      have received := (books fabric broker act).received
      rw [Broker.stats] at received
      grind
    have balance := balanced (fun r => r.stats.inboundReceived - r.stats.decodeFailures)
      Broker.relays (fun _ _ _ => 0) (fun _ _ => UInt64.sub_self 0) kept rfl acts here
    rw [sum_ofBroker_zero] at balance
    rw [total, ← balance, Broker.stats]
    grind
  case arrived =>
    rcases exists_start here with ⟨first, there⟩ | ⟨before, bus, config, later, rfl, length⟩
    · simp [initial] at there
    · refine ⟨before, bus, config, later, rfl, length, ?_⟩
      intro hub stream behind reads
      have tidy := (tidy_initial capacities servers buses).acts before
      have whole := ((tidy_initial capacities servers buses).acts
        (before ++ .on bus (.start config) :: later)).reads index broker stream here reads
      rw [acts_append] at here
      subst length
      obtain ⟨left, sees, passed⟩ := tidy.sees_acts bus config later here reads
        (whole.1.trans behind)
      have unread : (((initial capacities servers buses).acts before).acts
          (.on bus (.start config) :: later)).fabric.unread stream = left := sees.unread_eq
      rw [acts_concat, ← passed, acts_append, unread]
      rfl
  case offered =>
    have kept (fabric : Fabric) (broker : Broker) (act : Act) :
        (broker.perform fabric act).2.registry.stats.delivered
            + (broker.perform fabric act).2.registry.stats.droppedFull
            + .ofNat (broker.deserted fabric act)
          = broker.registry.stats.delivered + broker.registry.stats.droppedFull
            + .ofNat (broker.matched fabric act) := by
      rw [(books fabric broker act).delivered, (books fabric broker act).droppedFull,
        ← broker.sum_matched, UInt64.ofNat_add, UInt64.ofNat_add, Broker.stats]
      grind
    have balance := balanced (fun r => r.stats.delivered + r.stats.droppedFull)
      Broker.matched Broker.deserted (fun _ _ => rfl) kept rfl acts here
    exact balance.symm
  case delivered =>
    have kept (fabric : Fabric) (broker : Broker) (act : Act) :
        (broker.perform fabric act).2.registry.stats.delivered
            - .ofNat (broker.perform fabric act).2.registry.backlog + .ofNat 0
          = broker.registry.stats.delivered - .ofNat broker.registry.backlog
            + .ofNat (broker.taken fabric act + broker.discarded fabric act) := by
      have backlog := congrArg UInt64.ofNat (books fabric broker act).backlog
      rw [(books fabric broker act).delivered, Broker.stats]
      simp only [UInt64.ofNat_add] at backlog ⊢
      grind
    have balance := balanced (fun r => r.stats.delivered - .ofNat r.backlog)
      (fun fabric broker act => broker.taken fabric act + broker.discarded fabric act)
      (fun _ _ _ => 0) (fun _ _ => UInt64.sub_self 0) kept rfl acts here
    rw [sum_ofBroker_zero, sum_ofBroker_add, UInt64.ofNat_add] at balance
    rw [total, total, Broker.stats]
    grind

/-- Steps on one hub are acts on a bus in front of it. -/
theorem acts_initial (capacity : Nat) (steps : List Step) :
    (initial [capacity] [] [.memory 0]).acts (steps.map (.on 0))
      = (Chronicle.run capacity steps).network := by
  induction steps using List.reverseRecOn with
  | nil => rfl
  | append_singleton steps step same =>
    rw [List.map_append, List.map_singleton, acts_concat, same, act_on_zero,
      Chronicle.run_concat, Chronicle.advance_network]

/-- One broker and one client, to which an event was delivered through the hub. -/
theorem balanced_acts_publishing : ∃ broker : Broker,
    ((initial [4] [] [.memory 0]).acts
      ((Chronicle.joining ++ Chronicle.publishing).map (.on 0))).brokers[0]? = some broker ∧
    broker.stats = ⟨1, 0, 0, 0, 1, 0, 0⟩ ∧ broker.registry.backlog = 1 ∧
    (initial [4] [] [.memory 0]).Balanced
      ((Chronicle.joining ++ Chronicle.publishing).map (.on 0)) 0 broker := by
  have network := acts_initial 4 (Chronicle.joining ++ Chronicle.publishing)
  rw [Chronicle.network_publishing] at network
  have here := congrArg (·.brokers[0]?) network
  exact ⟨_, here, rfl, rfl, balanced_acts [4] [] [.memory 0] _ here⟩

end Network

end Fanout
