import Fanout.Proofs.Network.Situation

/-! The clients of a broker cannot tell what becomes of its bus. In every situation the broker goes
along with a registry alone, to which each publish is a broadcast. -/

namespace Fanout

/-- What can be told at the broker after a step. -/
structure Outcome where
  received : Option (Except QueueEnd Message)
  clientCount : Option Nat
  /-- The counters, without those that tell how messages came to the broker. -/
  stats : Option Stats

namespace Registry

/-- What a step at the broker is for its clients. -/
def perform (registry : Registry) : Local → Registry
  | .subscribe filter => (registry.subscribe filter).elim registry (·.value.1)
  | .unsubscribe client => (registry.unsubscribe client).value.1
  | .dropHandle client => (registry.dropHandle client).value
  | .dropReceiver client => registry.dropReceiver client
  | .receive client => (registry.receive client).1
  | .publish event =>
    match Envelope.sealEvent event with
    | .error _ => { registry with stats :=
        { registry.stats with
          serializationFailures := registry.stats.serializationFailures + 1 } }
    | .ok envelope => (registry.broadcast envelope.data envelope.scope).value.1
  | .turn => registry

def received? (registry : Registry) : Local → Option (Except QueueEnd Message)
  | .receive client => some (registry.receive client).2
  | _ => none

def outcomes (registry : Registry) : List Local → List Outcome
  | [] => []
  | step :: steps =>
    ⟨registry.received? step, some (registry.perform step).count,
      some (registry.perform step).common.stats⟩ :: (registry.perform step).outcomes steps

theorem common_unsubscribe (registry : Registry) (client : Nat) :
    (registry.unsubscribe client).value.1.common
      = (registry.common.unsubscribe client).value.1 := by
  unfold unsubscribe
  by_cases there : (registry.clients[client]?).any (·.registered) = true
  · rw [if_pos there, if_pos (show (registry.common.clients[client]?).any _ = true from there)]
    rfl
  · rw [if_neg there, if_neg (show ¬ (registry.common.clients[client]?).any _ = true from there)]
    rfl

theorem receive_common (registry : Registry) (client : Nat) :
    registry.common.receive client
      = ((registry.receive client).1.common, (registry.receive client).2) := by
  unfold receive
  rw [show registry.common.clients = registry.clients from rfl]
  cases registry.clients[client]? <;> rfl

theorem common_perform (registry : Registry) (step : Local) :
    (registry.perform step).common = registry.common.perform step := by
  cases step with
  | subscribe filter =>
    simp only [perform, subscribe, show registry.common.capacity = registry.capacity from rfl]
    split <;> rfl
  | unsubscribe client => exact registry.common_unsubscribe client
  | dropHandle client =>
    have same := registry.common_unsubscribe client
    simp only [perform, dropHandle, Logged.value_bind, Logged.value_pure, ← same]
    rfl
  | dropReceiver client => rfl
  | receive client => simp only [perform, receive_common]
  | publish event =>
    simp only [perform]
    cases Envelope.sealEvent event <;> rfl
  | turn => rfl

theorem received?_common (registry : Registry) (step : Local) :
    registry.common.received? step = registry.received? step := by
  cases step <;> simp only [received?, receive_common]

end Registry

namespace Situation

open Network

/-- What can be told at the broker in its situation, step by step. -/
def outcomes (situation : Situation) (network : Network) : List Local → List Outcome
  | [] => []
  | step :: steps =>
    let after := situation.perform network step
    ⟨(network.brokers[0]?).bind (·.registry.received? step),
      (after.brokers[0]?).map (·.clientCount), (after.brokers[0]?).map (·.registry.common.stats)⟩
      :: situation.outcomes after steps

/-- The broker has the clients and the counters of the registry. -/
def Follows (situation : Situation) (network : Network) (registry : Registry) : Prop :=
  ∃ fabric broker, network = ⟨fabric, [broker]⟩ ∧ situation.Stands fabric broker ∧
    broker.registry.common = registry.common

variable {situation : Situation} {network : Network} {registry : Registry} {fabric : Fabric}
  {broker broker' : Broker}

/-! ## Steps -/

/-- The loop of a broker that has nothing to read may be let run. -/
theorem Stands.settle {capacity : Nat} (stands : (drained capacity).Stands fabric broker) :
    ∃ after, broker.Stays after ∧ after.registry = broker.registry ∧
      (Network.mk fabric [broker]).settle.value = ⟨fabric, [after]⟩ := by
  obtain ⟨after, stays, same, idles⟩ := stands.fits.turn
  exact ⟨after, stays, same, (settle_single stands.fits.2.1).trans (turns_idle _ idles)⟩

/-- A step that does not reach the bus changes the broker as it changes the registry. -/
theorem Stands.follows (stands : situation.Stands fabric broker) {step : Local}
    (steps : (Network.mk fabric [broker]).step step.step = ⟨fabric, [broker']⟩)
    (stays : broker.Stays broker') (same : broker'.registry.common = registry.common) :
    situation.Follows (situation.perform ⟨fabric, [broker]⟩ step) registry := by
  have stands' := stands.stays stays
  unfold perform
  split
  · obtain ⟨after, stays', same', settled⟩ := stands'.settle
    rw [steps]
    exact ⟨fabric, after, settled, stands'.stays stays', (congrArg _ same').trans same⟩
  · exact ⟨fabric, broker', steps, stands', same⟩

/-- A step that concerns the registry alone. -/
theorem Stands.follows_registry (stands : situation.Stands fabric broker)
    (same : broker.registry.common = registry.common) {step : Local}
    (steps : (Network.mk fabric [broker]).step step.step
      = ⟨fabric, [{ broker with registry := broker.registry.perform step }]⟩) :
    situation.Follows (situation.perform ⟨fabric, [broker]⟩ step) (registry.perform step) := by
  refine stands.follows steps ⟨rfl, rfl, rfl, rfl, rfl⟩ ?_
  rw [Registry.common_perform, Registry.common_perform, same]

theorem Stands.follows_publish (stands : situation.Stands fabric broker)
    (same : broker.registry.common = registry.common) (event : Event Payload) :
    situation.Follows (situation.perform ⟨fabric, [broker]⟩ (.publish event))
      (registry.perform (.publish event)) := by
  cases sealed : Envelope.sealEvent event with
  | error error =>
    refine stands.follows_registry same ?_
    simp [Local.step, step, publish, stands.running, sealed, Registry.perform, setBroker,
      Broker.tally]
  | ok envelope =>
    have published : ∃ fabric' broker', situation.perform ⟨fabric, [broker]⟩ (.publish event)
        = ⟨fabric', [broker']⟩ ∧ situation.Stands fabric' broker' ∧ broker'.registry.common
          = (broker.registry.common.broadcast envelope.data envelope.scope).value.1 := by
      cases situation with
      | drained capacity => exact publish_drained stands sealed
      | unavailable | unreachable | writeFailing | ended =>
        exact publish_at_once stands (by simp) sealed
    obtain ⟨fabric', broker', published, stands', heard⟩ := published
    refine ⟨fabric', broker', published, stands', ?_⟩
    rw [heard, same, ← Registry.common_broadcast]
    simp only [Registry.perform, sealed]

theorem Follows.perform (follows : situation.Follows network registry) (step : Local) :
    situation.Follows (situation.perform network step) (registry.perform step) := by
  obtain ⟨fabric, broker, rfl, stands, same⟩ := follows
  cases step with
  | subscribe filter =>
    refine stands.follows_registry same ?_
    simp only [Local.step, Network.step, subscribe, List.getElem?_cons_zero, Broker.subscribe,
      Registry.perform]
    cases broker.registry.subscribe filter with
    | none => rfl
    | some joined => simp [stands.running, setBroker]
  | unsubscribe | dropHandle | dropReceiver | receive => exact stands.follows_registry same rfl
  | publish event => exact stands.follows_publish same event
  | turn =>
    obtain ⟨after, stays, kept, idles⟩ := stands.fits.turn
    exact stands.follows (congrArg (·.1) idles) stays ((congrArg _ kept).trans same)

/-! ## Runs -/

theorem follows_network (config : BrokerConfig) (situation : Situation) :
    situation.Follows (situation.network config) (.new 0 config.clientCapacity) := by
  cases situation with
  | drained capacity =>
    exact ⟨_, _, rfl, ⟨rfl, rfl, rfl, rfl, capacity, _, rfl, rfl, Channel.caughtUp_new ..⟩, rfl⟩
  | unavailable => exact ⟨_, _, rfl, ⟨rfl, rfl, rfl, rfl⟩, rfl⟩
  | unreachable address => exact ⟨_, _, rfl, ⟨rfl, rfl, rfl, rfl⟩, rfl⟩
  | writeFailing capacity =>
    exact ⟨_, _, rfl, ⟨rfl, rfl, rfl, capacity, _, rfl, Channel.caughtUp_new ..⟩, rfl⟩
  | ended capacity => exact ⟨_, _, rfl, ⟨rfl, rfl, rfl, rfl, _, rfl⟩, rfl⟩

/-- Every situation has the outcomes of the registry alone. -/
theorem Follows.outcomes (follows : situation.Follows network registry) (steps : List Local) :
    situation.outcomes network steps = registry.outcomes steps := by
  induction steps generalizing network registry with
  | nil => rfl
  | cons step steps alike =>
    have after := follows.perform step
    rw [Situation.outcomes, Registry.outcomes, alike after]
    obtain ⟨_, broker, rfl, _, same⟩ := follows
    obtain ⟨_, broker', there, _, same'⟩ := after
    have received : broker.registry.received? step = registry.received? step := by
      rw [← Registry.received?_common, same, Registry.received?_common]
    have counted : broker'.clientCount = (registry.perform step).count := by
      have counted := congrArg Registry.count same'
      exact counted
    simp only [there, List.getElem?_cons_zero, Option.bind_some, Option.map_some, received, counted,
      same']

/-- Whatever happens at a broker, its clients receive the same messages and its counters are the
same whether its loop brings back what is published or its bus has failed in one way or another. -/
theorem outcomes_network_eq (config : BrokerConfig) (one other : Situation) (steps : List Local) :
    one.outcomes (one.network config) steps = other.outcomes (other.network config) steps := by
  rw [(follows_network config one).outcomes, (follows_network config other).outcomes]

end Situation

end Fanout
