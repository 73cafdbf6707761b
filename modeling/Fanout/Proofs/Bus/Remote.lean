import Fanout.Proofs.Bus.Medium

/-! A server that passes every message on to the subscribers of its channel, whatever else it does.
Connections to it are a medium in which nobody ever falls behind. -/

namespace Fanout

namespace Server

/-- What is found of these messages. -/
def Arrival.first : List Bytes → Arrival
  | [] => .nothing
  | bytes :: _ => .message bytes

/-- As long as the server is not shut off, it can be reached and takes every message, and each
subscriber finds the messages that are written to its channel from then on, each once and in their
order. -/
structure Behavior.Delivers (behavior : Behavior) : Prop where
  connect : ∀ past, Request.stop ∉ past → behavior.connect past = .ok ()
  write : ∀ past channel message, Request.stop ∉ past →
    ∃ receivers, behavior.write past channel message = .ok receivers
  subscribe : ∀ past channel, Request.stop ∉ past → behavior.subscribe past channel = .ok ()
  next : ∀ past subscriber name queue, Request.stop ∉ past →
    Request.awaited? subscriber past = some (name, queue) →
    behavior.next past subscriber = .first queue

namespace Request

variable {past : List Request} {subscriber other : Nat} {name : String} {queue : List Bytes}

theorem stopped_eq_false (up : Request.stop ∉ past) : stopped past = false := by
  rw [stopped, List.contains_eq_mem, decide_eq_false up]

/-- Nobody waits who has not come. -/
theorem lt_subscribers {found : String × List Bytes}
    (awaits : awaited? subscriber past = some found) : subscriber < subscribers past := by
  induction past generalizing found with
  | nil => contradiction
  | cons request past ih =>
    cases request with
    | connect | stop => exact ih awaits
    | write channel message =>
      obtain ⟨before, awaits, _⟩ := Option.map_eq_some_iff.mp awaits
      exact ih awaits
    | subscribe channel =>
      rw [awaited?] at awaits
      rw [subscribers]
      split at awaits
      · omega
      · have := ih awaits
        omega
    | next reader =>
      rw [awaited?] at awaits
      split at awaits
      · obtain ⟨before, awaits, _⟩ := Option.map_eq_some_iff.mp awaits
        exact ih awaits
      · exact ih awaits
    | drop reader =>
      rw [awaited?] at awaits
      split at awaits
      · contradiction
      · exact ih awaits

theorem awaited?_write (up : Request.stop ∉ past)
    (awaits : awaited? subscriber past = some (name, queue)) (channel : String) (message : Bytes) :
    awaited? subscriber (.write channel message :: past)
      = some (name, arrive name true (some (channel, message)) queue) := by
  simp [awaited?, awaits, stopped_eq_false up, arrive]

theorem awaited?_subscribe (awaits : awaited? subscriber past = some (name, queue))
    (channel : String) : awaited? subscriber (.subscribe channel :: past) = some (name, queue) := by
  rw [awaited?, if_neg (Nat.ne_of_lt (lt_subscribers awaits)), awaits]

theorem awaited?_new (past : List Request) (channel : String) :
    awaited? (subscribers past) (.subscribe channel :: past) = some (channel, []) := by
  rw [awaited?, if_pos rfl]

theorem awaited?_next (awaits : awaited? subscriber past = some (name, queue)) :
    awaited? subscriber (.next subscriber :: past) = some (name, queue.tail) := by
  rw [awaited?, if_pos rfl, awaits]
  rfl

theorem awaited?_next_other (different : other ≠ subscriber) (past : List Request) :
    awaited? subscriber (.next other :: past) = awaited? subscriber past := by
  rw [awaited?, if_neg different]

theorem awaited?_drop_other (different : other ≠ subscriber) (past : List Request) :
    awaited? subscriber (.drop other :: past) = awaited? subscriber past := by
  rw [awaited?, if_neg different]

end Request

/-- Plain pub/sub is one way to pass messages on. -/
theorem Behavior.relay_delivers : relay.Delivers := by
  constructor
  case connect | subscribe =>
    intros
    simp_all [relay, Request.stopped_eq_false]
  case write =>
    intro past channel message up
    exact ⟨_, by simp only [relay, Request.stopped_eq_false up]; rfl⟩
  case next =>
    intro past subscriber name queue up awaits
    cases queue <;> simp [relay, awaits, Request.stopped_eq_false up, Arrival.first]

end Server

namespace Fabric

variable {fabric : Fabric} {behavior : Server.Behavior} {host : Server} {bus size : Nat}
  {stream : Stream} {name channel : String} {isOpen : Bool} {queue : List Bytes}

/-- All buses are connections to the first server, which behaves like this and is not shut off. -/
structure Remote (fabric : Fabric) (behavior : Server.Behavior) (size : Nat) : Prop where
  length : fabric.buses.length = size
  buses : ∀ bus ∈ fabric.buses, ∃ connected, bus = .server 0 connected
  runs : ∃ past, fabric.servers[0]? = some ⟨behavior, past⟩ ∧ Server.Request.stop ∉ past

/-- The stream is a subscription of this channel with these messages to come. -/
def Subscribed (fabric : Fabric) (stream : Stream) (name : String) (isOpen : Bool)
    (queue : List Bytes) : Prop :=
  isOpen = true ∧ ∃ host index, stream = .server 0 index ∧ fabric.servers[0]? = some host ∧
    Server.Request.awaited? index host.past = some (name, queue)

/-- Whatever a server does, none of its subscribers learns that it has lost messages. -/
theorem next_ne_lagged (fabric : Fabric) (server subscriber lost : Nat) :
    (fabric.next (.server server subscriber)).value.2 ≠ .item (.lagged lost) := by
  simp only [Fabric.next]
  split
  · simp
  · simp only [Server.next, Logged.value_pure]
    cases Server.Behavior.next _ _ subscriber <;> simp [Server.Arrival.next]

theorem Remote.bus_eq (remote : fabric.Remote behavior size) (inside : bus < size) :
    ∃ connected, fabric.bus bus = .server 0 connected := by
  rw [← remote.length] at inside
  obtain ⟨connected, same⟩ := remote.buses _ (List.getElem_mem inside)
  refine ⟨connected, ?_⟩
  rw [Fabric.bus, List.getElem?_eq_getElem inside, same]
  rfl

/-! ## What the server hears -/

/-- The first server, which is this one, has heard of a request. -/
def told (fabric : Fabric) (host : Server) (request : Server.Request) : Fabric :=
  { fabric with servers := fabric.servers.set 0 (host.hear request) }

theorem servers_told (here : fabric.servers[0]? = some host) (request : Server.Request) :
    (fabric.told host request).servers[0]? = some (host.hear request) :=
  List.getElem?_set_self (List.getElem?_eq_some_iff.mp here).1

theorem ask_told {α : Type} {request : Server.Request} {a : α} (kind : Error.Kind)
    (asks : Server → Server × Except String α) (here : fabric.servers[0]? = some host)
    (hears : (asks host).1 = host.hear request) (answers : (asks host).2 = .ok a) :
    fabric.ask 0 kind asks = (fabric.told host request, .ok a) := by
  simp only [ask, here, hears, answers, told]
  rfl

theorem Remote.told {past : List Server.Request} (remote : fabric.Remote behavior size)
    (here : fabric.servers[0]? = some ⟨behavior, past⟩) (request : Server.Request)
    (goes : request ≠ .stop) : (fabric.told ⟨behavior, past⟩ request).Remote behavior size := by
  obtain ⟨_, here', up⟩ := remote.runs
  cases here.symm.trans here'
  exact ⟨remote.length, remote.buses, request :: past, servers_told here request,
    fun member => (List.mem_cons.mp member).elim (goes ·.symm) up⟩

theorem Subscribed.told {request : Server.Request} {queue' : List Bytes}
    (waits : fabric.Subscribed stream name isOpen queue) (here : fabric.servers[0]? = some host)
    (awaits : ∀ index, stream = .server 0 index →
      Server.Request.awaited? index host.past = some (name, queue) →
      Server.Request.awaited? index (request :: host.past) = some (name, queue')) :
    (fabric.told host request).Subscribed stream name isOpen queue' := by
  obtain ⟨isOpen, _, index, rfl, here', there⟩ := waits
  cases here.symm.trans here'
  exact ⟨isOpen, _, index, rfl, servers_told here request, awaits index rfl there⟩

section Delivers

variable (delivers : behavior.Delivers)
include delivers

/-- The server can be reached, and its subscribers do not notice. -/
theorem Remote.reaches (remote : fabric.Remote behavior size) :
    ∃ after, fabric.ask 0 .connection (·.connect) = (after, .ok ()) ∧
      after.Remote behavior size ∧ ∀ {stream name isOpen queue},
        fabric.Subscribed stream name isOpen queue → after.Subscribed stream name isOpen queue := by
  obtain ⟨past, here, up⟩ := remote.runs
  exact ⟨_, ask_told .connection (·.connect) here rfl (delivers.connect past up),
    remote.told here .connect (by simp), fun waits => waits.told here fun _ _ awaits => awaits⟩

theorem Remote.connects (remote : fabric.Remote behavior size) (bus : Nat) (connected : Bool) :
    ∃ after, (fabric.connect bus 0 connected).value = (after, .ok ()) ∧
      after.Remote behavior size ∧ ∀ {stream name isOpen queue},
        fabric.Subscribed stream name isOpen queue → after.Subscribed stream name isOpen queue := by
  cases connected with
  | true => exact ⟨fabric, rfl, remote, id⟩
  | false =>
    obtain ⟨reached, asks, remote', waits⟩ := remote.reaches delivers
    refine ⟨{ reached with buses := reached.buses.set bus (.server 0 true) }, ?_,
      ⟨?_, ?_, remote'.runs⟩, waits⟩
    · simp only [connect, asks, Bool.false_eq_true, if_false]
      rfl
    · exact List.length_set.trans remote'.length
    · intro other member
      rcases List.mem_or_eq_of_mem_set member with old | rfl
      · exact remote'.buses other old
      · exact ⟨true, rfl⟩

/-- The server takes a message, which all subscribers of its channel have to come to then. -/
theorem Remote.writes (remote : fabric.Remote behavior size) (channel : String) (message : Bytes) :
    ∃ after, (fabric.writeServer 0 channel message).value = (after, .ok ()) ∧
      after.Remote behavior size ∧ ∀ {stream name isOpen queue},
        fabric.Subscribed stream name isOpen queue → after.Subscribed stream name isOpen
          (arrive name isOpen (some (channel, message)) queue) := by
  obtain ⟨past, here, up⟩ := remote.runs
  obtain ⟨receivers, answers⟩ := delivers.write past channel message up
  have asked := ask_told .publish (·.write channel message) here rfl answers
  refine ⟨_, ?_, remote.told here (.write channel message) (by simp), ?_⟩
  · simp only [writeServer, asked]
    rfl
  · intro stream name isOpen queue waits
    obtain ⟨rfl, _⟩ := id waits
    exact waits.told here fun _ _ awaits => Server.Request.awaited?_write up awaits channel message

/-- A new subscriber has nothing to come to. -/
theorem Remote.subscribes (remote : fabric.Remote behavior size) (channel : String) :
    ∃ after index, (fabric.subscribeServer 0 channel).value = (after, .ok (.server 0 index)) ∧
      after.Remote behavior size ∧ after.Subscribed (.server 0 index) channel true [] ∧
      ∀ {stream name isOpen queue}, fabric.Subscribed stream name isOpen queue →
        stream ≠ .server 0 index ∧ after.Subscribed stream name isOpen queue := by
  obtain ⟨reached, asks, remote', waits⟩ := remote.reaches delivers
  obtain ⟨past, here, up⟩ := remote'.runs
  have answers : (Server.subscribe ⟨behavior, past⟩ channel).2
      = .ok (Server.Request.subscribers past) := by
    simp only [Server.subscribe, delivers.subscribe past channel up]
    rfl
  have asked := ask_told .subscribe (·.subscribe channel) here rfl answers
  refine ⟨_, Server.Request.subscribers past, ?_,
    remote'.told here (.subscribe channel) (by simp),
    ⟨rfl, _, _, rfl, servers_told here _, Server.Request.awaited?_new past channel⟩, ?_⟩
  · simp only [subscribeServer, asks, asked]
    rfl
  · intro stream name isOpen queue before
    refine ⟨?_, (waits before).told here fun _ _ awaits =>
      Server.Request.awaited?_subscribe awaits channel⟩
    rintro rfl
    obtain ⟨_, _, index, same, there, awaits⟩ := waits before
    cases same
    cases here.symm.trans there
    exact Nat.lt_irrefl _ (Server.Request.lt_subscribers awaits)

/-- A subscriber finds the first message that it has to come to, and others find what they did. -/
theorem Remote.nexts (remote : fabric.Remote behavior size)
    (waits : fabric.Subscribed stream name isOpen queue) :
    (fabric.next stream).value.2 = findOn isOpen queue ∧
      (fabric.next stream).value.1.Remote behavior size ∧
      (fabric.next stream).value.1.Subscribed stream name isOpen queue.tail ∧
      ∀ {other name isOpen queue}, fabric.Subscribed other name isOpen queue → other ≠ stream →
        (fabric.next stream).value.1.Subscribed other name isOpen queue := by
  obtain ⟨past, here, up⟩ := remote.runs
  obtain ⟨rfl, _, index, rfl, here', awaits⟩ := id waits
  cases here.symm.trans here'
  have value : (fabric.next (.server 0 index)).value
      = (fabric.told ⟨behavior, past⟩ (.next index), findOn true queue) := by
    simp only [Fabric.next, here, Server.next, delivers.next past index name queue up awaits,
      Logged.value_pure]
    cases queue <;> rfl
  rw [value]
  refine ⟨rfl, remote.told here (.next index) (by simp), ?_, ?_⟩
  · refine waits.told here fun other same awaits => ?_
    cases same
    exact Server.Request.awaited?_next awaits
  · refine fun others different => others.told here fun other same awaits => ?_
    rw [Server.Request.awaited?_next_other fun equal => different (by rw [same, equal])]
    exact awaits

end Delivers

theorem Remote.drops (remote : fabric.Remote behavior size)
    (waits : fabric.Subscribed stream name isOpen queue) :
    (fabric.drop stream).Remote behavior size ∧
      ∀ {other name isOpen queue}, fabric.Subscribed other name isOpen queue → other ≠ stream →
        (fabric.drop stream).Subscribed other name isOpen queue := by
  obtain ⟨past, here, up⟩ := remote.runs
  obtain ⟨_, _, index, rfl, _⟩ := waits
  have dropped : fabric.drop (.server 0 index) = fabric.told ⟨behavior, past⟩ (.drop index) := by
    rw [Fabric.drop, modify_of_some here]
    rfl
  rw [dropped]
  refine ⟨remote.told here (.drop index) (by simp), fun others different => others.told here ?_⟩
  intro other same awaits
  rw [Server.Request.awaited?_drop_other fun equal => different (by rw [same, equal])]
  exact awaits

end Fabric

/-- As many connections to one server, which passes on what is written to it. -/
def Medium.remote {behavior : Server.Behavior} (delivers : behavior.Delivers) (size : Nat) :
    Medium where
  Sound fabric := fabric.Remote behavior size
  Takes bus _ := bus < size
  Ends _ := False
  Waits := Fabric.Subscribed
  unread := by
    rintro fabric stream name isOpen queue _ ⟨_, host, index, rfl, here, there⟩
    simp only [Fabric.unread, Server.unread, here, there, Option.map_some, Option.getD_some,
      Option.elim_some]
  write := by
    intro fabric bus channel remote inside message
    obtain ⟨connected, same⟩ := remote.bus_eq inside
    obtain ⟨opened, connects, remote', waits⟩ := remote.connects delivers bus connected
    obtain ⟨after, writes, remote'', waits'⟩ := remote'.writes delivers channel message
    have value : (fabric.write bus channel message).value = (after, .ok ()) := by
      simp only [Fabric.write, same, Logged.value_bind, connects, writes]
    rw [value]
    exact ⟨rfl, remote'', fun before => waits' (waits before)⟩
  subscribe := by
    intro fabric bus channel remote inside
    obtain ⟨connected, same⟩ := remote.bus_eq inside
    obtain ⟨after, index, subscribes, remote', new, others⟩ := remote.subscribes delivers channel
    have value : (fabric.subscribe bus channel).value = (after, .ok (.server 0 index)) := by
      simp only [Fabric.subscribe, same, subscribes]
    rw [value]
    exact ⟨_, rfl, remote', new, others⟩
  next remote waits _ := remote.nexts delivers waits
  drop remote waits := remote.drops waits
  shutdown := fun _ never => never.elim
  stop := fun _ never => never.elim

end Fanout
