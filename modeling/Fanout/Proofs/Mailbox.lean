import Fanout.Proofs.Registry

/-! Clients share nothing. Each is a mailbox of its own, which knows only what was done since its
client joined, and what a registry answers can be told from these mailboxes. -/

namespace Fanout

/-- A bounded queue with one reader. -/
structure Mailbox where
  capacity : Nat
  /-- The scope to listen to, or nothing for all scopes. -/
  filter : String
  /-- Whether messages still come. -/
  fed : Bool
  /-- Whether the reader is still there. -/
  read : Bool
  queue : List Message
  deriving DecidableEq, Repr

/-- What happens to a mailbox. -/
inductive Signal where
  | offered (message : Message) (scope : String)
  | taken
  | removed
  | abandoned
  deriving DecidableEq, Repr

namespace Mailbox

def opened (capacity : Nat) (filter : String) : Mailbox := ⟨capacity, filter, true, true, []⟩

/-- Whether a message for this scope is for the mailbox, and there is somebody to read it. -/
def wants (mailbox : Mailbox) (scope : String) : Bool :=
  mailbox.fed && mailbox.read && (mailbox.filter == "" || mailbox.filter == scope)

def accepts (mailbox : Mailbox) (scope : String) : Bool :=
  mailbox.wants scope && decide (mailbox.queue.length < mailbox.capacity)

/-- A message for this scope is lost because the mailbox is full. -/
def loses (mailbox : Mailbox) (scope : String) : Bool :=
  mailbox.wants scope && decide (mailbox.capacity ≤ mailbox.queue.length)

def on (mailbox : Mailbox) : Signal → Mailbox
  | .offered message scope =>
    if mailbox.accepts scope then { mailbox with queue := mailbox.queue ++ [message] } else mailbox
  | .taken => { mailbox with queue := mailbox.queue.tail }
  | .removed => { mailbox with fed := false }
  | .abandoned => { mailbox with read := false, queue := [] }

/-- What the reader finds. -/
def front (mailbox : Mailbox) : Except QueueEnd Message :=
  match mailbox.queue with
  | message :: _ => .ok message
  | [] => .error (if mailbox.fed then .empty else .closed)

end Mailbox

/-- What is asked of a registry. A client is removed by its number or through its handle. -/
inductive Request where
  | subscribe (filter : String)
  | broadcast (message : Message) (scope : String)
  | receive (client : Nat)
  | unsubscribe (client : Nat)
  | dropHandle (client : Nat)
  | dropReceiver (client : Nat)
  | closeAll
  deriving DecidableEq, Repr

namespace Request

def joins : Request → Bool
  | .subscribe _ => true
  | _ => false

/-- What a request is for a client that is there. -/
def signal? (client : Nat) : Request → Option Signal
  | .subscribe _ => none
  | .broadcast message scope => some (.offered message scope)
  | .receive receiver => if receiver = client then some .taken else none
  | .unsubscribe removed | .dropHandle removed => if removed = client then some .removed else none
  | .dropReceiver receiver => if receiver = client then some .abandoned else none
  | .closeAll => some .removed

/-- The scope that a client asked for, and what was asked of the registry since then. -/
def joined : List Request → Nat → Option (String × List Request)
  | [], _ => none
  | .subscribe filter :: requests, 0 => some (filter, requests)
  | .subscribe _ :: requests, place + 1 => joined requests place
  | _ :: requests, place => joined requests place

theorem eq_subscribe {request : Request} (joins : request.joins = true) :
    ∃ filter, request = .subscribe filter := by
  cases request with
  | subscribe filter => exact ⟨filter, rfl⟩
  | _ => contradiction

theorem joined_cons {request : Request} (stays : request.joins = false)
    (requests : List Request) (place : Nat) :
    joined (request :: requests) place = joined requests place := by
  cases request with
  | subscribe => contradiction
  | _ => rfl

/-- The signals that a client has had since it joined, with the scope that it listens to. -/
def signals (requests : List Request) (client : Nat) : Option (String × List Signal) :=
  (joined requests client).map fun (filter, later) => (filter, later.filterMap (signal? client))

end Request

/-- The mailbox of a client by the signals it has had, in a registry of this capacity. -/
def Mailbox.of (capacity : Nat) (requests : List Request) (client : Nat) : Option Mailbox :=
  (Request.signals requests client).map fun (filter, signals) =>
    signals.foldl Mailbox.on (.opened (max capacity 1) filter)

/-- The mailboxes of all clients. -/
def Mailbox.all (capacity : Nat) (requests : List Request) : List Mailbox :=
  (List.range (requests.countP (·.joins))).filterMap (Mailbox.of capacity requests)

/-- A client as a mailbox. -/
def Client.mailbox (capacity : Nat) (client : Client) : Mailbox :=
  ⟨capacity, client.filter, client.registered, client.receiving, client.queue⟩

namespace Client

variable {client : Client} {capacity : Nat} {message : Message} {scope : String}

theorem wants_mailbox : (client.mailbox capacity).wants scope = true ↔
    client.registered = true ∧ client.accepts scope = true ∧ client.receiving = true := by
  simp only [Mailbox.wants, mailbox, accepts, Bool.and_eq_true, Bool.or_eq_true, beq_iff_eq,
    String.isEmpty_iff]
  rw [and_assoc, and_comm (a := client.receiving = true)]

theorem accepts_mailbox :
    (client.mailbox capacity).accepts scope = true ↔ client.Takes capacity scope := by
  rw [Mailbox.accepts, Bool.and_eq_true, wants_mailbox, decide_eq_true_eq, Takes, and_assoc,
    and_assoc]
  rfl

theorem loses_mailbox :
    (client.mailbox capacity).loses scope = true ↔ client.Refuses capacity scope := by
  rw [Mailbox.loses, Bool.and_eq_true, wants_mailbox, decide_eq_true_eq, Refuses, and_assoc,
    and_assoc]
  rfl

theorem mailbox_hear (client : Client) (capacity : Nat) (message : Message) (scope : String) :
    (client.hear capacity message scope).mailbox capacity
      = (client.mailbox capacity).on (.offered message scope) := by
  by_cases takes : client.Takes capacity scope
  · rw [hear_of_takes takes, Mailbox.on, if_pos (accepts_mailbox.mpr takes)]
    rfl
  · rw [hear_of_not_takes takes, Mailbox.on, if_neg (mt accepts_mailbox.mp takes)]

theorem front_mailbox (client : Client) (capacity : Nat) :
    (client.mailbox capacity).front = client.receive.2 := by
  simp only [Mailbox.front, mailbox, receive]
  cases client.queue <;> rfl

end Client

namespace Registry

variable {registry : Registry}

/-- What a request makes of a registry. -/
def serve (registry : Registry) : Request → Registry
  | .subscribe filter => (registry.subscribe filter).elim registry (·.value.1)
  | .broadcast message scope => (registry.broadcast message scope).value.1
  | .receive client => (registry.receive client).1
  | .unsubscribe client => (registry.unsubscribe client).value.1
  | .dropHandle client => (registry.dropHandle client).value
  | .dropReceiver client => registry.dropReceiver client
  | .closeAll => registry.closeAll.value

/-- Clients keep their places, and a new one comes behind them. -/
theorem length_serve (fits : registry.capacity ≤ maxQueueCapacity) (request : Request) :
    (registry.serve request).clients.length
      = registry.clients.length + if request.joins then 1 else 0 := by
  cases request with
  | subscribe filter => simp [serve, subscribe, Nat.not_lt_of_le fits, Request.joins]
  | broadcast message scope => simp [serve, broadcast_clients, Request.joins]
  | receive client => simp [serve, receive_fst, update, Request.joins]
  | unsubscribe client => simp [serve, unsubscribe_value, update, Request.joins]
  | dropHandle client => simp [serve, dropHandle_value, update, Request.joins]
  | dropReceiver client => simp [serve, dropReceiver, update, Request.joins]
  | closeAll => simp [serve, closeAll_value, Request.joins]

theorem capacity_serve (registry : Registry) (request : Request) :
    (registry.serve request).capacity = registry.capacity := by
  cases request with
  | subscribe filter =>
    simp only [serve, subscribe]
    split <;> rfl
  | broadcast message scope => rfl
  | receive client => simp only [serve, receive_fst, update]
  | unsubscribe client => simp only [serve, unsubscribe_value, update]
  | dropHandle client => simp only [serve, dropHandle_value, update]
  | dropReceiver client => rfl
  | closeAll => simp only [serve, closeAll_value]

/-- A request reaches each client as a signal to its mailbox, or not at all. -/
theorem mailbox_serve (registry : Registry) (request : Request) {client : Nat} {c : Client}
    (here : registry.clients[client]? = some c) :
    ((registry.serve request).clients[client]?).map (·.mailbox registry.capacity)
      = some ((request.signal? client).toList.foldl Mailbox.on (c.mailbox registry.capacity)) := by
  have updated (other : Nat) (f : Client → Client) (signal : Signal)
      (does : (f c).mailbox registry.capacity = (c.mailbox registry.capacity).on signal) :
      ((registry.update other f).clients[client]?).map (·.mailbox registry.capacity)
        = some ((if other = client then some signal else none).toList.foldl Mailbox.on
          (c.mailbox registry.capacity)) := by
    simp only [update, List.getElem?_modify, here]
    split
    · simp [does]
    · simp
  cases request with
  | subscribe filter =>
    have inside := (List.getElem?_eq_some_iff.mp here).1
    simp only [serve, subscribe]
    split
    · simp [here, Request.signal?]
    · simp [List.getElem?_append_left inside, here, Request.signal?]
  | broadcast message scope =>
    simp [serve, broadcast_clients, here, Request.signal?, Client.mailbox_hear]
  | receive other =>
    rw [serve, receive_fst]
    refine updated other _ .taken ?_
    rw [Client.receive_fst]
    rfl
  | unsubscribe other =>
    rw [serve, unsubscribe_value]
    exact updated other _ .removed rfl
  | dropHandle other =>
    rw [serve, dropHandle_value]
    exact updated other _ .removed rfl
  | dropReceiver other => exact updated other _ .abandoned rfl
  | closeAll =>
    simp only [serve, closeAll_value, List.getElem?_map, here, Request.signal?]
    rfl

/-- What requests make of a registry, one after the other. -/
def serves (registry : Registry) (requests : List Request) : Registry :=
  requests.foldl serve registry

theorem capacity_serves (registry : Registry) (requests : List Request) :
    (registry.serves requests).capacity = registry.capacity := by
  induction requests generalizing registry with
  | nil => rfl
  | cons request requests same => exact (same _).trans (registry.capacity_serve request)

theorem length_serves (fits : registry.capacity ≤ maxQueueCapacity) (requests : List Request) :
    (registry.serves requests).clients.length
      = registry.clients.length + requests.countP (·.joins) := by
  induction requests generalizing registry with
  | nil => rfl
  | cons request requests counted =>
    have fits' : (registry.serve request).capacity ≤ maxQueueCapacity := by
      rwa [registry.capacity_serve request]
    rw [serves, List.foldl_cons, ← serves, counted fits', length_serve fits, List.countP_cons]
    omega

/-- A client that is there has had the signals of all requests. -/
theorem mailbox_serves (registry : Registry) (requests : List Request) {client : Nat} {c : Client}
    (here : registry.clients[client]? = some c) :
    ((registry.serves requests).clients[client]?).map (·.mailbox registry.capacity)
      = some ((requests.filterMap (Request.signal? client)).foldl Mailbox.on
        (c.mailbox registry.capacity)) := by
  induction requests generalizing registry c with
  | nil => simp [serves, here]
  | cons request requests rest =>
    have first := registry.mailbox_serve request here
    obtain ⟨d, there, same⟩ := Option.map_eq_some_iff.mp first
    have capacity := registry.capacity_serve request
    have later := rest (registry.serve request) there
    rw [capacity, same] at later
    rw [serves, List.foldl_cons, ← serves, later, ← List.foldl_append, List.filterMap_cons]
    cases request.signal? client <;> rfl

/-- A client that joins on the way has had the signals of the requests behind that. -/
theorem mailbox_joined (fits : registry.capacity ≤ maxQueueCapacity) (requests : List Request)
    (place : Nat) :
    ((registry.serves requests).clients[registry.clients.length + place]?).map
        (·.mailbox registry.capacity)
      = (Request.joined requests place).map fun (filter, later) =>
        (later.filterMap (Request.signal? (registry.clients.length + place))).foldl Mailbox.on
          (.opened registry.capacity filter) := by
  induction requests generalizing registry place with
  | nil => simp [serves, Request.joined]
  | cons request requests rest =>
    have capacity := registry.capacity_serve request
    have length := length_serve fits request
    have fits' : (registry.serve request).capacity ≤ maxQueueCapacity := by rwa [capacity]
    have later := rest fits'
    rw [capacity] at later
    rw [serves, List.foldl_cons, ← serves]
    cases joins : request.joins with
    | false =>
      rw [joins, if_neg Bool.false_ne_true, Nat.add_zero] at length
      rw [length] at later
      rw [later, Request.joined_cons joins]
    | true =>
      obtain ⟨filter, rfl⟩ := Request.eq_subscribe joins
      cases place with
      | zero =>
        have new : (registry.serve (.subscribe filter)).clients[registry.clients.length]?
            = some (.opened filter) := by
          simp [serve, subscribe, Nat.not_lt_of_le fits]
        rw [← capacity]
        exact mailbox_serves _ requests new
      | succ place =>
        rw [joins, if_pos rfl] at length
        rw [length] at later
        have next : registry.clients.length + (place + 1)
            = registry.clients.length + 1 + place := by
          omega
        rw [next, later, Request.joined]

/-- A new registry that was asked for this. -/
def served (number capacity : Nat) (requests : List Request) : Registry :=
  (new number capacity).serves requests

section Served

variable {capacity : Nat} (fits : capacity ≤ maxQueueCapacity) (number : Nat)
  (requests : List Request)

theorem capacity_served (number capacity : Nat) (requests : List Request) :
    (served number capacity requests).capacity = max capacity 1 :=
  capacity_serves ..

include fits

theorem fits_new : (new number capacity).capacity ≤ maxQueueCapacity :=
  Nat.max_le.mpr ⟨fits, by decide⟩

theorem mailbox_served (client : Nat) :
    ((served number capacity requests).clients[client]?).map (·.mailbox (max capacity 1))
      = Mailbox.of capacity requests client := by
  have joined := mailbox_joined (fits_new fits number) requests client
  have first : (new number capacity).clients.length + client = client := Nat.zero_add client
  rw [first] at joined
  refine joined.trans ?_
  rw [Mailbox.of, Request.signals, Option.map_map]
  rfl

theorem mailboxes_served :
    (served number capacity requests).clients.map (·.mailbox (max capacity 1))
      = Mailbox.all capacity requests := by
  have counted := length_serves (fits_new fits number) requests
  rw [show (new number capacity).clients.length = 0 from rfl, Nat.zero_add] at counted
  have places : (fun client => ((served number capacity requests).clients.map
      (·.mailbox (max capacity 1)))[client]?) = Mailbox.of capacity requests := by
    funext client
    rw [List.getElem?_map]
    exact mailbox_served fits number requests client
  rw [← filterMap_range (List.map _ _), List.length_map, places, Mailbox.all, ← counted, served]

theorem takers_served (scope : String) : (served number capacity requests).takers scope
    = (Mailbox.all capacity requests).countP (·.accepts scope) := by
  rw [← mailboxes_served fits number, List.countP_map, takers, capacity_served]
  refine List.countP_congr fun client _ => ?_
  rw [decide_eq_true_eq, Function.comp, Client.accepts_mailbox]

theorem refusals_served (scope : String) : (served number capacity requests).refusals scope
    = (Mailbox.all capacity requests).countP (·.loses scope) := by
  rw [← mailboxes_served fits number, List.countP_map, refusals, capacity_served]
  refine List.countP_congr fun client _ => ?_
  rw [decide_eq_true_eq, Function.comp, Client.loses_mailbox]

theorem receive_served (client : Nat) : ((served number capacity requests).receive client).2
    = ((Mailbox.of capacity requests client).map (·.front)).getD (.error .closed) := by
  rw [receive_snd, ← mailbox_served fits number, Option.map_map]
  simp only [Function.comp_def, Client.front_mailbox]

/-- What a registry answers is what mailboxes answer that have nothing to do with each other: what a
receiver finds depends on nothing but the signals to its own mailbox, and a broadcast reaches as
many clients as there are mailboxes that take its message, and is lost where they are full. -/
theorem serves_mailboxes :
    (∀ client, ((served number capacity requests).receive client).2
      = ((Mailbox.of capacity requests client).map (·.front)).getD (.error .closed)) ∧
    (∀ client others, Request.signals others client = Request.signals requests client →
      ((served number capacity others).receive client).2
        = ((served number capacity requests).receive client).2) ∧
    (∀ message scope,
      ((served number capacity requests).broadcast message scope).value.2
        = (Mailbox.all capacity requests).countP (·.accepts scope) ∧
      ((served number capacity requests).broadcast message scope).value.1.stats.delivered
        = (served number capacity requests).stats.delivered
          + .ofNat ((Mailbox.all capacity requests).countP (·.accepts scope)) ∧
      ((served number capacity requests).broadcast message scope).value.1.stats.droppedFull
        = (served number capacity requests).stats.droppedFull
          + .ofNat ((Mailbox.all capacity requests).countP (·.loses scope))) ∧
    (served number capacity requests).count = (Mailbox.all capacity requests).countP (·.fed) := by
  refine ⟨receive_served fits number requests, ?_, ?_, ?_⟩
  · intro client others same
    rw [receive_served fits, receive_served fits, Mailbox.of, same, Mailbox.of]
  · intro message scope
    rw [broadcast_delivered, broadcast_stats, takers_served fits, refusals_served fits]
    exact ⟨rfl, rfl, rfl⟩
  · rw [← mailboxes_served fits number, List.countP_map]
    rfl

end Served

/-- Two clients whose queues have room for one message. One of them is removed twice. -/
def crowded : List Request :=
  [.subscribe "a", .subscribe "", .broadcast [1] "a", .broadcast [2] "a", .receive 0,
    .unsubscribe 0, .dropHandle 0]

theorem serves_mailboxes_crowded : 1 ≤ maxQueueCapacity ∧
    ((served 0 1 crowded).receive 0).2 = .error .closed ∧
    ((served 0 1 crowded).receive 1).2 = .ok [1] ∧
    ((served 0 1 (crowded ++ [.receive 0])).receive 1).2 = .ok [1] ∧
    ((served 0 1 crowded).broadcast [3] "a").value.2 = 0 ∧
    ((served 0 1 crowded).broadcast [3] "a").value.1.stats.droppedFull
      = (served 0 1 crowded).stats.droppedFull + 1 ∧
    (served 0 1 crowded).count = 1 := by
  have fits : 1 ≤ maxQueueCapacity := by decide
  obtain ⟨received, alone, broadcasts, counted⟩ := serves_mailboxes fits 0 crowded
  obtain ⟨taken, _, lost⟩ := broadcasts [3] "a"
  have still := alone 1 (crowded ++ [.receive 0]) rfl
  exact ⟨fits, (received 0).trans rfl, (received 1).trans rfl, still.trans ((received 1).trans rfl),
    taken.trans (by decide), lost.trans (congrArg _ (by decide)), counted.trans (by decide)⟩

end Registry

end Fanout
