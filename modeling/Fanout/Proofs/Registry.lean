import Fanout.Registry
import Fanout.Proofs.Lists

/-! What the operations of a registry do to one client: a broadcast puts its message behind what is
queued or leaves the client alone, and every other operation only takes away. -/

namespace Fanout

namespace Client

/-- What a broadcast makes of a client. -/
def hear (capacity : Nat) (message : Message) (scope : String) (client : Client) : Client :=
  if client.registered && client.accepts scope then (client.offer capacity message).1 else client

/-- A message for this scope is put into the queue. -/
def Takes (capacity : Nat) (scope : String) (client : Client) : Prop :=
  client.registered = true ∧ client.accepts scope = true ∧ client.receiving = true ∧
    client.queue.length < capacity

/-- A message for this scope is dropped because the queue is full. -/
def Refuses (capacity : Nat) (scope : String) (client : Client) : Prop :=
  client.registered = true ∧ client.accepts scope = true ∧ client.receiving = true ∧
    capacity ≤ client.queue.length

instance (capacity : Nat) (scope : String) (client : Client) :
    Decidable (client.Takes capacity scope) :=
  inferInstanceAs (Decidable (_ ∧ _))

instance (capacity : Nat) (scope : String) (client : Client) :
    Decidable (client.Refuses capacity scope) :=
  inferInstanceAs (Decidable (_ ∧ _))

/-- The client has lost something between the two states, and gained nothing. -/
structure Wanes (client after : Client) : Prop where
  filter : after.filter = client.filter
  queue : after.queue <:+ client.queue
  registered : after.registered = true → client.registered = true
  receiving : after.receiving = true → client.receiving = true

variable {client after : Client} {capacity : Nat} {message : Message} {scope : String}

theorem Wanes.refl (client : Client) : client.Wanes client :=
  ⟨rfl, List.suffix_refl _, id, id⟩

theorem Wanes.trans {last : Client} (first : client.Wanes after) (second : after.Wanes last) :
    client.Wanes last :=
  ⟨second.filter.trans first.filter, second.queue.trans first.queue,
    fun h => first.registered (second.registered h), fun h => first.receiving (second.receiving h)⟩

theorem hear_of_takes (takes : client.Takes capacity scope) :
    client.hear capacity message scope = { client with queue := client.queue ++ [message] } := by
  obtain ⟨registered, accepts, receiving, room⟩ := takes
  simp [hear, offer, registered, accepts, receiving, room]

theorem hear_of_not_takes (turned : ¬ client.Takes capacity scope) :
    client.hear capacity message scope = client := by
  unfold hear
  split
  · rename_i offered
    simp only [Bool.and_eq_true] at offered
    unfold offer
    split
    · rfl
    split
    · rename_i receiving room
      exact absurd ⟨offered.1, offered.2, by simpa using receiving, room⟩ turned
    · rfl
  · rfl

/-- Receiving takes the first message from the queue, if there is one. -/
theorem receive_fst (client : Client) :
    client.receive.1 = { client with queue := client.queue.tail } := by
  obtain ⟨filter, registered, receiving, held, queue⟩ := client
  cases queue <;> rfl

/-- The outcomes that are counted, as deliveries and as drops. -/
theorem offer_iff (message : Message) :
    ((if client.registered && client.accepts scope then
      some (client.offer capacity message).2 else none) = some .delivered
        ↔ client.Takes capacity scope) ∧
    ((if client.registered && client.accepts scope then
      some (client.offer capacity message).2 else none) = some .full
        ↔ client.Refuses capacity scope) := by
  unfold Takes Refuses offer
  by_cases registered : client.registered = true
  · by_cases accepts : client.accepts scope = true
    · by_cases receiving : client.receiving = true
      · by_cases room : client.queue.length < capacity
        · simp [registered, accepts, receiving, room]
        · simp [registered, accepts, receiving, room, Nat.le_of_not_lt room]
      · simp [registered, accepts, receiving]
    · simp [registered, accepts]
  · simp [registered]

/-- A client that a message is for takes it or refuses it, or its receiver is gone. -/
theorem sum_outcomes (client : Client) (capacity : Nat) (scope : String) :
    (if client.Takes capacity scope then 1 else 0)
        + (if client.Refuses capacity scope then 1 else 0)
        + (if client.registered && client.accepts scope && !client.receiving then 1 else 0)
      = if client.registered && client.accepts scope then 1 else 0 := by
  unfold Takes Refuses
  by_cases registered : client.registered = true
  · by_cases accepts : client.accepts scope = true
    · by_cases receiving : client.receiving = true
      · by_cases room : client.queue.length < capacity
        · simp [registered, accepts, receiving, room]
        · simp [registered, accepts, receiving, room, Nat.le_of_not_lt room]
      · simp [registered, accepts, receiving]
    · simp [registered, accepts]
  · simp [registered]

end Client

namespace Registry

variable {registry : Registry}

theorem broadcast_clients (registry : Registry) (message : Message) (scope : String) :
    (registry.broadcast message scope).value.1.clients
      = registry.clients.map (·.hear registry.capacity message scope) := by
  simp only [broadcast, offers, List.map_map]
  refine List.map_congr_left fun client _ => ?_
  simp only [Function.comp, Client.hear]
  split <;> rfl

/-- How many clients lose a message because their queues are full. -/
def refusals (registry : Registry) (scope : String) : Nat :=
  registry.clients.countP fun client => client.Refuses registry.capacity scope

theorem broadcast_droppedFull (registry : Registry) (message : Message) (scope : String) :
    (registry.broadcast message scope).value.1.stats.droppedFull
      = registry.stats.droppedFull + .ofNat (registry.refusals scope) := by
  simp only [broadcast, offers, refusals, List.countP_map]
  congr 2
  refine List.countP_congr fun client _ => ?_
  simp only [Function.comp, decide_eq_true_eq, ← (Client.offer_iff message).2]
  split <;> rfl

/-- How many clients a message for this scope is delivered to. -/
def takers (registry : Registry) (scope : String) : Nat :=
  registry.clients.countP fun client => client.Takes registry.capacity scope

theorem broadcast_delivered (registry : Registry) (message : Message) (scope : String) :
    (registry.broadcast message scope).value.2 = registry.takers scope := by
  simp only [broadcast, offers, takers, List.countP_map]
  refine List.countP_congr fun client _ => ?_
  simp only [Function.comp, decide_eq_true_eq, ← (Client.offer_iff message).1]
  split <;> rfl

theorem broadcast_stats (registry : Registry) (message : Message) (scope : String) :
    (registry.broadcast message scope).value.1.stats = { registry.stats with
      delivered := registry.stats.delivered + .ofNat (registry.takers scope)
      droppedFull := registry.stats.droppedFull + .ofNat (registry.refusals scope) } := by
  rw [← broadcast_delivered registry message, ← broadcast_droppedFull registry message]
  rfl

/-- How many registered clients listen to a scope. -/
def matching (registry : Registry) (scope : String) : Nat :=
  registry.clients.countP fun client => client.registered && client.accepts scope

/-- How many of them have given up their receivers. -/
def deserted (registry : Registry) (scope : String) : Nat :=
  registry.clients.countP fun client =>
    client.registered && client.accepts scope && !client.receiving

theorem sum_matching (registry : Registry) (scope : String) :
    registry.takers scope + registry.refusals scope + registry.deserted scope
      = registry.matching scope := by
  unfold takers refusals deserted matching
  induction registry.clients with
  | nil => rfl
  | cons client clients counted =>
    have one := client.sum_outcomes registry.capacity scope
    simp only [List.countP_cons, decide_eq_true_eq]
    omega

/-- How many messages are queued. -/
def backlog (registry : Registry) : Nat := (registry.clients.flatMap (·.queue)).length

theorem backlog_broadcast (registry : Registry) (message : Message) (scope : String) :
    (registry.broadcast message scope).value.1.backlog
      = registry.backlog + registry.takers scope := by
  rw [backlog, broadcast_clients, backlog, takers]
  induction registry.clients with
  | nil => rfl
  | cons client clients counted =>
    rw [List.map_cons, List.flatMap_cons, List.length_append, counted, List.flatMap_cons,
      List.length_append, List.countP_cons]
    by_cases takes : client.Takes registry.capacity scope
    · simp only [Client.hear_of_takes takes, takes, List.length_append, List.length_singleton,
        decide_true, if_true]
      omega
    · simp only [Client.hear_of_not_takes takes, takes, decide_false, Bool.false_eq_true, if_false]
      omega

/-- Every client has heard one message, and the drops are counted. -/
structure Hears (registry : Registry) (message : Message) (scope : String) (after : Registry) :
    Prop where
  capacity : after.capacity = registry.capacity
  clients : after.clients = registry.clients.map (·.hear registry.capacity message scope)
  droppedFull : after.stats.droppedFull
    = registry.stats.droppedFull + .ofNat (registry.refusals scope)

theorem hears_broadcast (registry : Registry) (message : Message) (scope : String) :
    registry.Hears message scope (registry.broadcast message scope).value.1 :=
  ⟨rfl, broadcast_clients .., broadcast_droppedFull ..⟩

/-! ## Operations on one client -/

theorem update_congr {f g : Client → Client} {serial : Nat}
    (same : ∀ client, registry.clients[serial]? = some client → f client = g client) :
    registry.update serial f = registry.update serial g := by
  have clients : registry.clients.modify serial f = registry.clients.modify serial g := by
    apply List.ext_getElem?
    intro other
    rw [List.getElem?_modify, List.getElem?_modify]
    by_cases here : serial = other
    · subst here
      cases found : registry.clients[serial]? with
      | none => rfl
      | some client => simp [same client found]
    · simp [here]
  rw [update, clients, update]

theorem update_self {f : Client → Client} {serial : Nat}
    (same : ∀ client, registry.clients[serial]? = some client → f client = client) :
    registry.update serial f = registry := by
  rw [update_congr (g := fun client => client) same, update]
  exact congrArg (fun clients => { registry with clients }) (List.modify_id _ _)

theorem backlog_update (registry : Registry) (serial : Nat) (f : Client → Client) :
    (registry.update serial f).backlog
        + ((registry.clients[serial]?).map (·.queue.length)).getD 0
      = registry.backlog
        + ((registry.clients[serial]?).map fun client => (f client).queue.length).getD 0 := by
  simp only [backlog, update]
  induction registry.clients generalizing serial with
  | nil => simp
  | cons client clients counted =>
    cases serial with
    | zero =>
      simp only [List.modify_zero_cons, List.flatMap_cons, List.length_append,
        List.getElem?_cons_zero, Option.map_some, Option.getD_some]
      omega
    | succ serial =>
      have rest := counted serial
      simp only [List.modify_succ_cons, List.flatMap_cons, List.length_append,
        List.getElem?_cons_succ]
      omega

theorem unsubscribe_value (registry : Registry) (serial : Nat) :
    (registry.unsubscribe serial).value
      = (registry.update serial ({ · with registered := false }),
        (registry.clients[serial]?).any (·.registered)) := by
  unfold unsubscribe
  split
  · rename_i there
    rw [there]
    rfl
  · rename_i absent
    refine Prod.ext (Eq.symm ?_) (Bool.eq_false_iff.mpr absent).symm
    apply update_self
    intro client here
    rw [here] at absent
    have gone : client.registered = false := by simpa using absent
    rw [← gone]

theorem dropHandle_value (registry : Registry) (serial : Nat) :
    (registry.dropHandle serial).value
      = registry.update serial ({ · with registered := false, held := false }) := by
  simp only [dropHandle, Logged.value_bind, unsubscribe_value, Logged.value_pure, update,
    List.modify_modify_eq, Function.comp_def]

theorem receive_fst (registry : Registry) (serial : Nat) :
    (registry.receive serial).1 = registry.update serial fun client => client.receive.1 := by
  unfold receive
  split
  · rename_i absent
    refine (update_self fun client here => ?_).symm
    rw [absent] at here
    contradiction
  · rename_i client here
    refine update_congr fun other same => ?_
    cases here.symm.trans same
    rfl

theorem receive_snd (registry : Registry) (serial : Nat) :
    (registry.receive serial).2
      = ((registry.clients[serial]?).map (·.receive.2)).getD (.error .closed) := by
  unfold receive
  cases registry.clients[serial]? <;> rfl

/-- Every client has lost something at most, and there is no new one. -/
structure Wanes (registry after : Registry) : Prop where
  capacity : after.capacity = registry.capacity
  droppedFull : after.stats.droppedFull = registry.stats.droppedFull
  length : after.clients.length = registry.clients.length
  client : ∀ (serial : Nat) (c d : Client), registry.clients[serial]? = some c →
    after.clients[serial]? = some d → c.Wanes d

theorem Wanes.refl (registry : Registry) : registry.Wanes registry := by
  constructor
  case capacity | droppedFull | length => rfl
  case client =>
    intro serial c d first second
    cases first.symm.trans second
    exact .refl c

theorem Wanes.trans {after last : Registry} (first : registry.Wanes after)
    (second : after.Wanes last) : registry.Wanes last := by
  constructor
  case capacity => exact second.capacity.trans first.capacity
  case droppedFull => exact second.droppedFull.trans first.droppedFull
  case length => exact second.length.trans first.length
  case client =>
    intro serial c e here there
    obtain ⟨d, between⟩ := exists_getElem? (Nat.le_of_eq first.length.symm) here
    exact (first.client serial c d here between).trans (second.client serial d e between there)

theorem Wanes.before {after : Registry} (wanes : registry.Wanes after) {serial : Nat} {d : Client}
    (here : after.clients[serial]? = some d) :
    ∃ c, registry.clients[serial]? = some c ∧ c.Wanes d := by
  obtain ⟨c, before⟩ := exists_getElem? (Nat.le_of_eq wanes.length) here
  exact ⟨c, before, wanes.client serial c d before here⟩

theorem wanes_update {f : Client → Client} (serial : Nat)
    (loses : ∀ c, registry.clients[serial]? = some c → c.Wanes (f c)) :
    registry.Wanes (registry.update serial f) := by
  constructor
  case capacity | droppedFull => rfl
  case length => simp [update]
  case client =>
    intro other c d first second
    simp only [update, List.getElem?_modify, first, Option.map_eq_map, Option.map_some,
      Option.some.injEq] at second
    subst second
    split
    · rename_i same
      exact loses c (same ▸ first)
    · exact .refl c

theorem wanes_unsubscribe (registry : Registry) (serial : Nat) :
    registry.Wanes (registry.unsubscribe serial).value.1 := by
  unfold unsubscribe
  split
  · exact wanes_update serial fun c _ => ⟨rfl, List.suffix_refl _, by simp, fun h => h⟩
  · exact .refl registry

theorem wanes_dropHandle (registry : Registry) (serial : Nat) :
    registry.Wanes (registry.dropHandle serial).value := by
  refine (wanes_unsubscribe registry serial).trans ?_
  exact wanes_update serial fun c _ => ⟨rfl, List.suffix_refl _, fun h => h, fun h => h⟩

theorem wanes_dropReceiver (registry : Registry) (serial : Nat) :
    registry.Wanes (registry.dropReceiver serial) :=
  wanes_update serial fun c _ => ⟨rfl, List.nil_suffix, fun h => h, by simp [Client.dropReceiver]⟩

theorem wanes_receive (registry : Registry) (serial : Nat) :
    registry.Wanes (registry.receive serial).1 := by
  unfold receive
  split
  · exact .refl registry
  · rename_i client here
    refine wanes_update serial fun c same => ?_
    cases here.symm.trans same
    unfold Client.receive
    split
    · rename_i message queue waiting
      exact ⟨rfl, waiting ▸ List.suffix_cons message queue, fun h => h, fun h => h⟩
    · exact .refl client

theorem closeAll_value (registry : Registry) : registry.closeAll.value
    = { registry with clients := registry.clients.map ({ · with registered := false }) } := by
  unfold closeAll
  split <;> rfl

theorem wanes_closeAll (registry : Registry) : registry.Wanes registry.closeAll.value := by
  rw [closeAll_value]
  constructor
  case capacity | droppedFull => rfl
  case length => simp
  case client =>
    intro serial c d first second
    simp only [List.getElem?_map, first, Option.map_some, Option.some.injEq] at second
    subst second
    exact ⟨rfl, List.suffix_refl _, by simp, fun h => h⟩

/-! ## New clients -/

/-- Nothing was broadcast: clients may have lost something, and new ones have empty queues. -/
structure Settles (registry after : Registry) : Prop where
  capacity : after.capacity = registry.capacity
  droppedFull : after.stats.droppedFull = registry.stats.droppedFull
  length : registry.clients.length ≤ after.clients.length
  client : ∀ (serial : Nat) (d : Client), after.clients[serial]? = some d →
    (∃ c, registry.clients[serial]? = some c ∧ c.Wanes d) ∨
      (registry.clients[serial]? = none ∧ d.queue = [])

theorem Wanes.settles {after : Registry} (wanes : registry.Wanes after) :
    registry.Settles after :=
  ⟨wanes.capacity, wanes.droppedFull, Nat.le_of_eq wanes.length.symm,
    fun _ _ here => .inl (wanes.before here)⟩

theorem Settles.wanes {after last : Registry} (settles : registry.Settles after)
    (wanes : after.Wanes last) : registry.Settles last := by
  constructor
  case capacity => exact wanes.capacity.trans settles.capacity
  case droppedFull => exact wanes.droppedFull.trans settles.droppedFull
  case length => exact wanes.length ▸ settles.length
  case client =>
    intro serial e here
    obtain ⟨d, between, loses⟩ := wanes.before here
    rcases settles.client serial d between with ⟨c, before, loses'⟩ | ⟨new, empty⟩
    · exact .inl ⟨c, before, loses'.trans loses⟩
    · refine .inr ⟨new, ?_⟩
      simpa [empty] using loses.queue

theorem subscribe_value {filter : String} {joined : Logged (Registry × Nat)}
    (subscribed : registry.subscribe filter = some joined) :
    joined.value = ({ registry with clients := registry.clients ++ [.opened filter] },
      registry.clients.length) := by
  unfold subscribe at subscribed
  split at subscribed
  · contradiction
  · cases subscribed
    rfl

theorem settles_subscribe {filter : String} {joined : Logged (Registry × Nat)}
    (subscribed : registry.subscribe filter = some joined) :
    registry.Settles joined.value.1 := by
  rw [subscribe_value subscribed]
  constructor
  case capacity | droppedFull => rfl
  case length => simp
  case client =>
    intro serial d here
    rcases getElem?_snoc_cases here with old | ⟨atEnd, rfl⟩
    · exact .inl ⟨d, old, .refl d⟩
    · exact .inr ⟨List.getElem?_eq_none (Nat.le_of_eq atEnd.symm), rfl⟩

end Registry

end Fanout
