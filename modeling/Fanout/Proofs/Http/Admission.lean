import Fanout.Proofs.Config.Capacity
import Fanout.Proofs.Http.Request
import Fanout.Proofs.Network.Acts
import Fanout.Service

/-! Whether somebody can subscribe depends on the configuration alone. The settings take every
number of 64 bits but zero for the length of a client's queue, and queues end earlier: with a number
in between, no state of the broker lets any client in. -/

namespace Fanout

namespace Network

variable {network : Network} {index : Nat} {broker : Broker}

theorem subscribe_isSome_iff (here : network.brokers[index]? = some broker) (filter : String) :
    (network.subscribe index filter).isSome = true
      ↔ broker.registry.capacity ≤ maxQueueCapacity := by
  simp only [subscribe, here, Option.isSome_map, Broker.subscribe, Registry.subscribe]
  split
  · rename_i exceeds
    simp only [Option.isSome_none, Bool.false_eq_true, false_iff]
    omega
  · rename_i fits
    simp only [Option.isSome_some, true_iff]
    omega

/-- A broker that was started has queues of the length that its configuration names. -/
theorem capacity_started (network : Network) (bus : Nat) (config : BrokerConfig)
    (positive : 1 ≤ config.clientCapacity) (later : List Act) : ∃ broker,
      (network.acts (.on bus (.start config) :: later)).brokers[network.brokers.length]?
        = some broker ∧ broker.registry.capacity = config.clientCapacity := by
  have born : (network.act (.on bus (.start config))).brokers[network.brokers.length]?
      = some (.fresh bus network.brokers.length config
        (network.fabric.subscribe bus config.channel).value.2) := by
    rw [act_start, List.getElem?_concat_length]
  refine broker_induction born ?_ (fun fabric broker act kept => ?_) later
  · rw [Broker.fresh_registry, Registry.new, Nat.max_eq_left positive]
  · exact (broker.remains_perform fabric act).capacity.trans kept

end Network

namespace Http

variable {network : Network} {index : Nat} {broker : Broker} {method target scope : String}

/-- A request for events is answered with a stream where queues can be that long. -/
theorem handle_of_fits (here : network.brokers[index]? = some broker)
    (asked : asked? method target = some scope)
    (fits : broker.registry.capacity ≤ maxQueueCapacity) :
    ∃ answered stream, handle network index method target = .ok answered ∧
      answered.value.2 = .streaming .eventStream stream := by
  obtain ⟨answered, handled, same⟩ := handle_of_asked network index asked
  obtain ⟨joined, found⟩ :=
    Option.isSome_iff_exists.mp ((Network.subscribe_isSome_iff here scope).mpr fits)
  by_cases head : method = "HEAD"
  · refine ⟨answered, none, handled, ?_⟩
    simp only [same, streamed, found, head, if_true]
  · refine ⟨answered, some ⟨joined.value.2, scope⟩, handled, ?_⟩
    simp only [same, streamed, found, head, if_false]

/-- Otherwise it is cut off, and nothing has changed. -/
theorem handle_of_not_fits (here : network.brokers[index]? = some broker)
    (asked : asked? method target = some scope)
    (exceeds : maxQueueCapacity < broker.registry.capacity) :
    ∃ answered, handle network index method target = .ok answered ∧
      answered.value = (network, .queueTooLong) := by
  obtain ⟨answered, handled, same⟩ := handle_of_asked network index asked
  have refused : network.subscribe index scope = none := by
    rw [← Option.not_isSome_iff_eq_none, Network.subscribe_isSome_iff here]
    omega
  refine ⟨answered, handled, ?_⟩
  simp only [same, streamed, refused]

end Http

namespace Service
open Config Network Http

/-- Whom a service with this configuration lets in, on any buses and in any state that its broker
can come to. -/
structure Admits (config : Config) : Prop where
  capacity : 1 ≤ config.clientBufferCapacity ∧ config.clientBufferCapacity < UInt64.size
  /-- Every subscription succeeds, or none does. -/
  subscribe : ∀ fabric before bus later filter,
    (((⟨fabric, []⟩ : Network).acts
        (before ++ .on bus (.start (brokerConfig config)) :: later)).subscribe
      ((⟨fabric, []⟩ : Network).acts before).brokers.length filter).isSome = true
      ↔ config.clientBufferCapacity ≤ maxQueueCapacity
  /-- Every request for events is answered with a stream, or none is. -/
  events : ∀ fabric before bus later method target scope, asked? method target = some scope →
    ∃ answered, Http.handle ((⟨fabric, []⟩ : Network).acts
        (before ++ .on bus (.start (brokerConfig config)) :: later))
      ((⟨fabric, []⟩ : Network).acts before).brokers.length method target = .ok answered ∧
    if config.clientBufferCapacity ≤ maxQueueCapacity then
      ∃ stream, answered.value.2 = .streaming .eventStream stream
    else answered.value = ((⟨fabric, []⟩ : Network).acts
      (before ++ .on bus (.start (brokerConfig config)) :: later), .queueTooLong)

/-- The settings take every number of 64 bits but zero for the length of a client's queue. A service
lets clients in exactly if there are queues of this length. -/
theorem admits_iff_fits {arguments : List String} {vars : Variables} {config : Config}
    (accepted : ofArguments arguments vars = .ok config) :
    (∀ text n, Given.readCapacity text = .ok n ↔ Denotes text n ∧ 1 ≤ n ∧ n < UInt64.size) ∧
    Admits config := by
  refine ⟨fun _ _ => readCapacity_iff, ?_⟩
  have capacity := capacity_ofArguments accepted
  have reached (fabric before bus later) := capacity_started
    ((⟨fabric, []⟩ : Network).acts before) bus (brokerConfig config) capacity.1 later
  constructor
  case capacity => exact capacity
  case subscribe =>
    intro fabric before bus later filter
    obtain ⟨broker, here, same⟩ := reached fabric before bus later
    rw [acts_append, subscribe_isSome_iff here, same, brokerConfig]
  case events =>
    intro fabric before bus later method target scope asked
    obtain ⟨broker, here, same⟩ := reached fabric before bus later
    rw [brokerConfig] at same
    rw [acts_append]
    split
    · rename_i fits
      obtain ⟨answered, stream, handled, streams⟩ := handle_of_fits here asked (same ▸ fits)
      exact ⟨answered, handled, stream, streams⟩
    · rename_i exceeds
      exact handle_of_not_fits here asked (same ▸ Nat.lt_of_not_le exceeds)

/-- The first number that is too great for a queue, as a setting. -/
def tooLong : Config.Variables := [("CLIENT_BUFFER_CAPACITY", "2305843009213693952")]

/-- What is configured with it. -/
def overlong : Config := { Config.default with clientBufferCapacity := maxQueueCapacity + 1 }

theorem ofArguments_tooLong : ofArguments [] tooLong = .ok overlong :=
  ofArguments_capacity ⟨by decide, by decide, by decide⟩ (by decide) (by decide)

theorem admits_tooLong : ofArguments [] tooLong = .ok overlong ∧ Admits overlong :=
  ⟨ofArguments_tooLong, (admits_iff_fits ofArguments_tooLong).2⟩

/-- So it is not so that every service that is configured lets clients in. -/
theorem not_admits_all : ¬ ∀ arguments vars config, ofArguments arguments vars = .ok config →
    ∀ fabric before bus later filter,
      (((⟨fabric, []⟩ : Network).acts
          (before ++ .on bus (.start (brokerConfig config)) :: later)).subscribe
        ((⟨fabric, []⟩ : Network).acts before).brokers.length filter).isSome = true := by
  intro always
  let fabric := (Fabric.empty.addHub defaultHubCapacity).1
  have joins := always [] tooLong _ ofArguments_tooLong fabric [] 0 [] ""
  obtain ⟨broker, here, same⟩ :=
    capacity_started ⟨fabric, []⟩ 0 (brokerConfig overlong) (by decide) []
  have fits := (subscribe_isSome_iff here "").mp joins
  rw [same] at fits
  exact absurd fits (by decide)

end Service

end Fanout
