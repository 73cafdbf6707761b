import Fanout.Proofs.Network.Acts
import Mathlib.Data.List.Nodup

/-! Which clients are registered. Only a new client, a client that leaves and a close make a
difference; whatever is published, read or received, the registered clients remain the same. -/

namespace Fanout

/-- The client that an act is made for by whoever holds it. -/
def Act.holder? : Act → Option ClientId
  | .on _ (.unsubscribe id) | .on _ (.dropHandle id) | .on _ (.dropReceiver id)
  | .on _ (.receive id) => some id
  | _ => none

/-- Whether an act closes a broker. -/
def Act.closes (index : Nat) : Act → Bool
  | .on _ (.close other) => other = index
  | _ => false

/-- Whether a client leaves by an act, or by the end of its broker. -/
def Act.removes (id : ClientId) : Act → Bool
  | .on _ (.unsubscribe other) | .on _ (.dropHandle other) => other = id
  | act => act.closes id.registry

namespace Broker

/-- Whether each of the clients that ever subscribed is registered. -/
def members (broker : Broker) : List Bool := broker.registry.clients.map (·.registered)

theorem clientCount_eq (broker : Broker) : broker.clientCount = broker.members.count true := by
  rw [clientCount, Registry.count, members, List.count, List.countP_map]
  refine List.countP_congr fun client _ => ?_
  simp

theorem registered_hear (client : Client) (capacity : Nat) (message : Message) (scope : String) :
    (client.hear capacity message scope).registered = client.registered := by
  by_cases takes : client.Takes capacity scope
  · rw [Client.hear_of_takes takes]
  · rw [Client.hear_of_not_takes takes]

theorem members_broadcast (broker : Broker) (message : Message) (scope : String) :
    (broker.broadcast message scope).value.1.members = broker.members := by
  have clients := broker.registry.broadcast_clients message scope
  simp only [members, broadcast, Logged.value_bind, Logged.value_pure, clients, List.map_map]
  exact List.map_congr_left fun client _ => registered_hear client ..

theorem members_tally (broker : Broker) (f : Stats → Stats) :
    (broker.tally f).members = broker.members := rfl

theorem members_take (broker : Broker) (item : BusItem) :
    (broker.take item).value.members = broker.members := by
  cases item with
  | lagged lost => rfl
  | message message =>
    cases decoded : Envelope.decode message with
    | error fault => rw [take_malformed broker decoded, members_tally]
    | ok envelope => rw [take_message broker decoded, members_broadcast, members_tally]

theorem members_published (fabric : Fabric) (broker : Broker) (event : Event Payload) :
    (broker.published fabric event).2.members = broker.members := by
  unfold published
  split
  · rfl
  split
  · rfl
  split
  · split
    · rfl
    · exact members_broadcast ..
  · exact members_broadcast ..

theorem members_turned (fabric : Fabric) (broker : Broker) :
    (broker.turned fabric).2.members = broker.members := by
  cases reads : broker.inbound.stream? with
  | none => rw [turned_idle reads]
  | some stream =>
    rw [turned_stream reads]
    cases (fabric.next stream).value.2 with
    | pending | ended => rfl
    | item item => exact members_take ..

theorem members_onClient (broker : Broker) (serial : Nat) {f : Client → Client} {g : Bool → Bool}
    (same : ∀ client, (f client).registered = g client.registered) :
    (broker.onClient serial f).members = broker.members.modify serial g := by
  apply List.ext_getElem?
  intro other
  simp only [members, onClient, Registry.update, List.getElem?_map, List.getElem?_modify]
  cases broker.registry.clients[other]? with
  | none => rfl
  | some client =>
    simp only [Option.map_eq_map, Option.map_some, Option.some.injEq]
    split
    · exact same client
    · rfl

theorem members_onClient_same (broker : Broker) (serial : Nat) {f : Client → Client}
    (same : ∀ client, (f client).registered = client.registered) :
    (broker.onClient serial f).members = broker.members :=
  (members_onClient broker serial (g := id) same).trans (List.modify_id _ _)

theorem members_shut (fabric : Fabric) (broker : Broker) :
    (broker.shut fabric).2.members = broker.members.map fun _ => false := by
  have closed : (broker.registry.closeAll.value.clients.map (·.registered))
      = broker.members.map fun _ => false := by
    rw [Registry.closeAll_value, members, List.map_map, List.map_map]
    rfl
  unfold shut
  cases broker.inbound.stream? <;> exact closed

/-- What an act makes of the clients of the broker that it names. -/
theorem members_perform (fabric : Fabric) (broker : Broker) (act : Act) :
    (broker.perform fabric act).2.members = match act with
      | .on _ (.subscribe _ _) => broker.members
        ++ if maxQueueCapacity < broker.registry.capacity then [] else [!broker.closed]
      | .on _ (.unsubscribe id) | .on _ (.dropHandle id) =>
        broker.members.modify id.serial fun _ => false
      | .on _ (.close _) => broker.members.map fun _ => false
      | _ => broker.members := by
  cases act with
  | closing j | stop bus => rfl
  | on bus step =>
    cases step with
    | start config | write channel message | shutdown => rfl
    | publish j event => exact members_published fabric broker event
    | turn j => exact members_turned fabric broker
    | close j => exact members_shut fabric broker
    | subscribe j filter =>
      rw [perform_subscribe]
      simp only [members, joined, List.map_append]
      split <;> rfl
    | unsubscribe id | dropHandle id => exact members_onClient broker id.serial fun _ => rfl
    | dropReceiver id => exact members_onClient_same broker id.serial fun _ => rfl
    | receive id =>
      refine members_onClient_same broker id.serial fun client => ?_
      rw [Client.receive_fst]

end Broker

namespace Network

/-- Whether a client is registered. -/
def isRegistered (network : Network) (id : ClientId) : Bool :=
  (network.brokers[id.registry]?).any fun broker => broker.members[id.serial]? = some true

/-- Whether a client has ever subscribed. -/
def isKnown (network : Network) (id : ClientId) : Bool :=
  (network.brokers[id.registry]?).any fun broker => id.serial < broker.members.length

/-- Whether callers find a broker closed. -/
def isClosed (network : Network) (index : Nat) : Bool :=
  (network.brokers[index]?).any (·.closed)

/-- The client that subscribes by an act, if one does. -/
def joins? (network : Network) : Act → Option ClientId
  | .on _ (.subscribe index filter) =>
    (network.subscribe index filter).map fun joined => joined.value.2
  | _ => none

variable {network : Network} {index : Nat} {broker : Broker} {act : Act} {id : ClientId}

theorem isRegistered_eq (here : network.brokers[index]? = some broker) (serial : Nat) :
    network.isRegistered ⟨index, serial⟩ = decide (broker.members[serial]? = some true) := by
  rw [isRegistered, here]
  rfl

theorem isKnown_eq (here : network.brokers[index]? = some broker) (serial : Nat) :
    network.isKnown ⟨index, serial⟩ = decide (serial < broker.members.length) := by
  rw [isKnown, here]
  rfl

/-- A client joins behind those that its broker has had before. -/
theorem joins?_subscribe (here : network.brokers[index]? = some broker) (bus : Nat)
    (filter : String) : network.joins? (.on bus (.subscribe index filter))
      = if maxQueueCapacity < broker.registry.capacity then none
        else some ⟨index, broker.members.length⟩ := by
  have length : broker.members.length = broker.registry.clients.length := List.length_map ..
  simp only [joins?, subscribe, here]
  by_cases full : maxQueueCapacity < broker.registry.capacity
  · have refused : broker.subscribe filter = none := by
      rw [Broker.subscribe, Registry.subscribe, if_pos full, Option.map_none]
    simp [refused, full]
  · obtain ⟨found, subscribed⟩ : ∃ found, broker.subscribe filter = some found := by
      rw [Broker.subscribe, Registry.subscribe, if_neg full]
      exact ⟨_, rfl⟩
    rw [if_neg full, subscribed, length]
    simp [Broker.subscribe_value subscribed]

theorem joins?_absent (absent : network.brokers[index]? = none) (bus : Nat) (filter : String) :
    network.joins? (.on bus (.subscribe index filter)) = none := by
  simp [joins?, subscribe, absent]

section Subscribe
variable {filter : String} {joined : Logged (Network × ClientId)}
  (found : network.subscribe index filter = some joined)
include found

/-- A subscription that succeeds is an act. -/
theorem subscribed_eq (bus : Nat) :
    joined.value.1 = network.act (.on bus (.subscribe index filter)) := by
  simp only [act, step, found, Option.elim_some]

theorem joins?_of_subscribe (bus : Nat) :
    network.joins? (.on bus (.subscribe index filter)) = some joined.value.2 := by
  rw [joins?, found, Option.map_some]

end Subscribe

theorem eq_subscribe_of_joins? (joins : network.joins? act = some id) :
    ∃ bus filter, act = .on bus (.subscribe id.registry filter) := by
  cases act with
  | closing j | stop bus => contradiction
  | on bus step =>
    cases step with
    | subscribe j filter =>
      cases there : network.brokers[j]? with
      | none =>
        rw [joins?_absent there] at joins
        contradiction
      | some broker =>
        rw [joins?_subscribe there] at joins
        split at joins
        · contradiction
        · cases joins
          exact ⟨bus, filter, rfl⟩
    | start | write | shutdown | publish | turn | close | unsubscribe | dropHandle | dropReceiver
    | receive => contradiction

theorem names_of_joins? (joins : network.joins? act = some id) :
    act.broker? = some id.registry := by
  obtain ⟨bus, filter, rfl⟩ := eq_subscribe_of_joins? joins
  rfl

theorem removes_of_not_names (other : act.broker? ≠ some id.registry) : act.removes id = false := by
  cases act with
  | closing j | stop bus => rfl
  | on bus step =>
    cases step with
    | start | write | shutdown | publish | turn | subscribe | dropReceiver | receive => rfl
    | close j =>
      refine decide_eq_false fun same => other ?_
      rw [← same]
      rfl
    | unsubscribe left | dropHandle left =>
      refine decide_eq_false fun same => other ?_
      rw [← same]
      rfl

/-- A broker that is new has no clients yet. -/
theorem members_new (absent : network.brokers[index]? = none)
    (there : (network.act act).brokers[index]? = some broker) : broker.members = [] := by
  rcases broker_before there with ⟨before, here⟩ | ⟨bus, config, _, _, rfl⟩
  · rw [absent] at here
    contradiction
  · rw [Broker.members, Broker.fresh_registry]
    rfl

theorem joins?_of_absent (absent : network.brokers[id.registry]? = none) :
    network.joins? act ≠ some id := by
  intro joins
  obtain ⟨bus, filter, rfl⟩ := eq_subscribe_of_joins? joins
  rw [joins?_absent absent] at joins
  contradiction

/-- Whether a place among the clients of a broker is that of a registered one after an act. -/
theorem getElem?_members_perform (here : network.brokers[index]? = some broker)
    (names : act.broker? = some index) (serial : Nat) :
    decide ((broker.perform network.fabric act).2.members[serial]? = some true)
      = ((decide (broker.members[serial]? = some true) && !act.removes ⟨index, serial⟩)
        || (decide (network.joins? act = some ⟨index, serial⟩) && !broker.closed)) := by
  rw [Broker.members_perform]
  cases act with
  | stop bus => contradiction
  | closing j => simp [joins?, Act.removes, Act.closes]
  | on bus step =>
    cases step with
    | start | write | shutdown => contradiction
    | publish | turn | dropReceiver | receive => simp [joins?, Act.removes, Act.closes]
    | close j =>
      cases names
      simp [joins?, Act.removes, Act.closes, List.getElem?_replicate]
    | subscribe j filter =>
      cases names
      rw [joins?_subscribe here]
      by_cases full : maxQueueCapacity < broker.registry.capacity
      · simp [full, Act.removes, Act.closes]
      · rcases Nat.lt_trichotomy serial broker.members.length with before | rfl | beyond
        · simp [full, Act.removes, Act.closes, List.getElem?_append_left before,
            Nat.ne_of_gt before]
        · simp [full, Act.removes, Act.closes]
        · have absent : broker.members[serial]? = none :=
            List.getElem?_eq_none (Nat.le_of_lt beyond)
          have absent' : (broker.members ++ [!broker.closed])[serial]? = none :=
            List.getElem?_eq_none (by rw [List.length_append]; exact beyond)
          simp [full, absent, absent', Nat.ne_of_lt beyond]
    | unsubscribe left | dropHandle left =>
      obtain ⟨other, place⟩ := left
      cases names
      by_cases same : place = serial
      · subst same
        cases broker.members[place]? <;> simp [joins?, Act.removes]
      · simp [joins?, Act.removes, same]

/-- The clients that are registered behind an act: those that were before and did not leave, and the
one that joined, if its broker was not closed. -/
theorem isRegistered_act (network : Network) (act : Act) (id : ClientId) :
    (network.act act).isRegistered id = ((network.isRegistered id && !act.removes id)
      || (decide (network.joins? act = some id) && !network.isClosed id.registry)) := by
  obtain ⟨index, serial⟩ := id
  cases here : network.brokers[index]? with
  | none =>
    have outside : network.joins? act ≠ some ⟨index, serial⟩ := joins?_of_absent here
    have nobody : (network.act act).isRegistered ⟨index, serial⟩ = false := by
      cases there : (network.act act).brokers[index]? with
      | none => simp [isRegistered, there]
      | some broker => simp [isRegistered_eq there, members_new here there]
    rw [nobody]
    simp [isRegistered, here, outside]
  | some broker =>
    have there := broker_act act here
    rw [isRegistered_eq there, isRegistered_eq here, isClosed, here, Option.any_some]
    by_cases names : act.broker? = some index
    · rw [if_pos names]
      exact getElem?_members_perform here names serial
    · have joins : network.joins? act ≠ some ⟨index, serial⟩ := fun joins =>
        names (names_of_joins? joins)
      rw [if_neg names, removes_of_not_names names, decide_eq_false joins]
      simp

/-- The clients that are known behind an act: those that were before, and the one that joined. -/
theorem isKnown_act (network : Network) (act : Act) (id : ClientId) :
    (network.act act).isKnown id
      = (network.isKnown id || decide (network.joins? act = some id)) := by
  obtain ⟨index, serial⟩ := id
  cases here : network.brokers[index]? with
  | none =>
    have outside : network.joins? act ≠ some ⟨index, serial⟩ := joins?_of_absent here
    have nobody : (network.act act).isKnown ⟨index, serial⟩ = false := by
      cases there : (network.act act).brokers[index]? with
      | none => simp [isKnown, there]
      | some broker => simp [isKnown_eq there, members_new here there]
    rw [nobody]
    simp [isKnown, here, outside]
  | some broker =>
    have there := broker_act act here
    rw [isKnown_eq there, isKnown_eq here]
    by_cases names : act.broker? = some index
    · rw [if_pos names, Broker.members_perform]
      cases act with
      | stop bus => contradiction
      | closing j => simp [joins?]
      | on bus step =>
        cases step with
        | start | write | shutdown => contradiction
        | publish | turn | dropReceiver | receive | close | unsubscribe | dropHandle =>
          simp [joins?]
        | subscribe j filter =>
          cases names
          rw [joins?_subscribe here]
          by_cases full : maxQueueCapacity < broker.registry.capacity
          · simp [full]
          · rw [Bool.eq_iff_iff]
            simp only [full, if_false, List.length_append, List.length_singleton, decide_eq_true_eq,
              Bool.or_eq_true, Option.some.injEq, ClientId.mk.injEq, true_and]
            omega
    · have joins : network.joins? act ≠ some ⟨index, serial⟩ := fun joins =>
        names (names_of_joins? joins)
      rw [if_neg names, decide_eq_false joins, Bool.or_false]

/-- A client that joins was not known before. -/
theorem not_isKnown_of_joins? (joins : network.joins? act = some id) :
    network.isKnown id = false := by
  obtain ⟨bus, filter, rfl⟩ := eq_subscribe_of_joins? joins
  obtain ⟨index, serial⟩ := id
  cases here : network.brokers[index]? with
  | none => simp [isKnown, here]
  | some broker =>
    rw [joins?_subscribe here] at joins
    split at joins
    · contradiction
    · cases joins
      simp [isKnown_eq here]

/-! ## Counting -/

theorem count_eq_places (members : List Bool) : members.count true
    = ((List.range members.length).filter fun i => members[i]? = some true).length := by
  conv => lhs; rw [← filterMap_range members]
  rw [List.count, List.countP_filterMap, List.countP_eq_length_filter]
  congr 1
  refine List.filter_congr fun i _ => ?_
  cases members[i]? <;> simp

/-- The count of a broker is that of its registered clients, in any list that has all registered
clients and none of them twice. -/
theorem clientCount_eq_of_listed (here : network.brokers[index]? = some broker)
    {ids : List ClientId} (once : ids.Nodup)
    (listed : ∀ id, network.isRegistered id = true → id ∈ ids) :
    broker.clientCount
      = ids.countP fun id => decide (id.registry = index) && network.isRegistered id := by
  rw [broker.clientCount_eq, count_eq_places, List.countP_eq_length_filter,
    ← List.length_map (f := ClientId.mk index)]
  have serials : ((List.range broker.members.length).filter
      fun i => broker.members[i]? = some true).Nodup := List.nodup_range.filter _
  have places : (List.map (ClientId.mk index) _).Nodup :=
    serials.map fun _ _ same => congrArg ClientId.serial same
  refine ((List.perm_ext_iff_of_nodup places (once.filter _)).mpr fun id => ?_).length_eq
  simp only [List.mem_map, List.mem_filter, List.mem_range, decide_eq_true_eq, Bool.and_eq_true]
  constructor
  · rintro ⟨serial, ⟨_, registered⟩, rfl⟩
    have found : network.isRegistered ⟨index, serial⟩ = true := by
      rw [isRegistered_eq here, registered]
      rfl
    exact ⟨listed _ found, rfl, found⟩
  · obtain ⟨index', serial⟩ := id
    rintro ⟨_, rfl, registered⟩
    rw [isRegistered_eq here, decide_eq_true_eq] at registered
    exact ⟨serial, ⟨(List.getElem?_eq_some_iff.mp registered).1, registered⟩, rfl⟩

end Network

end Fanout
