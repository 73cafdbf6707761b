import Fanout.Proofs.Bus.Medium
import Fanout.Proofs.Network.Isolation
import Fanout.Proofs.Network.Mask

/-! Brokers without buses. A station is a broker together with the messages that its loop has still to
come to; in an exchange every write goes at once behind the messages of each station on its channel.
What buses there are, and where on them a broker reads, does not matter to what its clients find. -/

namespace Fanout

/-- A loop apart from its stream, and from whether it has run. -/
def Inbound.bare : Inbound → Inbound
  | .waiting _ | .running _ => .running (.hub 0 0 0)
  | .absent | .ended => .ended

theorem Inbound.bare_of_stream? {inbound : Inbound} {stream : Stream}
    (reads : inbound.stream? = some stream) : inbound.bare = .running (.hub 0 0 0) := by
  cases inbound with
  | waiting | running => rfl
  | absent | ended => contradiction

theorem Inbound.bare_of_none {inbound : Inbound} (idle : inbound.stream? = none) :
    inbound.bare = .ended := by
  cases inbound with
  | waiting | running => contradiction
  | absent | ended => rfl

theorem Inbound.bare_bare (inbound : Inbound) : inbound.bare.bare = inbound.bare := by
  cases inbound <;> rfl

namespace Broker

/-- A bus that takes every write. What becomes of a message there does not matter. -/
def wire : Fabric := (Fabric.empty.addHub 1).1

/-- A broker apart from its place on the buses, with so many messages more behind it that could not be
decoded. -/
def past (n : Nat) (broker : Broker) : Broker :=
  { broker with
    bus := 0
    inbound := broker.inbound.bare
    registry := { broker.registry with stats := broker.stats.malformed n } }

variable {broker : Broker} {fabric : Fabric}

theorem idle_of_past {n : Nat} {after : Broker} (past : after = broker.past n)
    (idle : broker.inbound.stream? = none) : after.inbound.stream? = none := by
  rw [past]
  exact congrArg Inbound.stream? (Inbound.bare_of_none idle)

theorem reads_of_past {n : Nat} {after : Broker} {stream : Stream} (past : after = broker.past n)
    (reads : broker.inbound.stream? = some stream) :
    after.inbound.stream? = some (.hub 0 0 0) := by
  rw [past]
  exact congrArg Inbound.stream? (Inbound.bare_of_stream? reads)

theorem goesOn_of_past {n : Nat} {after : Broker} (past : after = broker.past n)
    (goesOn : broker.inbound.stream? ≠ none) : after.inbound.stream? ≠ none := by
  obtain ⟨stream, reads⟩ := Option.ne_none_iff_exists'.mp goesOn
  rw [reads_of_past past reads]
  exact Option.some_ne_none _

theorem past_past (m n : Nat) (broker : Broker) : (broker.past m).past n = broker.past (m + n) := by
  simp only [past, stats, Inbound.bare_bare, Stats.malformed_malformed]

theorem masks_past (n : Nat) : Masks (past n) where
  closed _ := rfl
  listening _ := rfl
  tally broker f adds := by
    simp only [past, tally, stats, adds n]
  broadcast _ _ _ := rfl
  runs _ _ := rfl
  ends _ := rfl

/-- A message that cannot be decoded leaves nothing but its trace in the counters. -/
theorem past_of_malformed (n : Nat) {broker : Broker} {message : Bytes} {fault : Error}
    (decoded : Envelope.decode message = .error fault) {stream : Stream}
    (reads : broker.inbound.stream? = some stream) (fabric : Fabric) :
    (broker.found fabric stream (.item (.message message))).2.past n = broker.past (1 + n) := by
  have taken := take_malformed { broker with inbound := .running stream } decoded
  have one : UInt64.ofNat 1 = 1 := rfl
  have running : (Inbound.running stream).bare = broker.inbound.bare :=
    (Inbound.bare_of_stream? reads).symm
  simp only [found, taken, past, tally, stats, Stats.malformed, running, UInt64.ofNat_add,
    UInt64.add_assoc, one]

theorem past_shut (n : Nat) (fabric : Fabric) (broker : Broker) :
    (broker.shut fabric).2.past n = ((broker.past n).shut wire).2 := by
  obtain ⟨bus, channel, registry, inbound, listening, closed⟩ := broker
  cases inbound <;> simp [shut, past, Inbound.stream?, Inbound.bare, Registry.closeAll_value, stats]

/-- What is done to a broker whose writes are taken depends on nothing that is left out. -/
theorem past_perform (n : Nat) {act : Act} (noTurn : ∀ bus index, act ≠ .on bus (.turn index))
    (takes : ∀ envelope, broker.writes fabric envelope = true) :
    (broker.perform fabric act).2.past n = ((broker.past n).perform wire act).2 := by
  cases act with
  | closing j | stop bus => rfl
  | on bus step =>
    cases step with
    | turn j => exact absurd rfl (noTurn bus j)
    | publish j event =>
      have same (envelope : Envelope) :
          (broker.past n).writes wire envelope = broker.writes fabric envelope :=
        (takes envelope).symm
      exact (masks_past n).published same event
    | close j => exact past_shut n fabric broker
    | subscribe j filter =>
      rw [perform_subscribe, perform_subscribe]
      rfl
    | start | write | shutdown | unsubscribe | dropHandle | dropReceiver | receive => rfl

/-- The channel and the message of the write that a broker makes when this is done to it. -/
def writing? (broker : Broker) : Act → Option (String × Bytes)
  | .on _ (.publish _ event) => (broker.written? event).map (broker.channel, ·)
  | _ => none

end Broker

structure Station where
  broker : Broker
  /-- The messages that the loop has still to come to. -/
  queue : List Bytes
  /-- Whether anything can follow them. -/
  isOpen : Bool

namespace Station

/-- The station of a broker that has just been started. -/
def opened (number : Nat) (config : BrokerConfig) : Station :=
  ⟨(Broker.fresh 0 number config (.ok (.hub 0 0 0))).past 0, [], true⟩

/-- A station behind a write. -/
def hears (write? : Option (String × Bytes)) (station : Station) : Station :=
  { station with
    queue := arrive station.broker.channel station.isOpen write? station.queue }

/-- A station behind one turn of its loop. -/
def turned (station : Station) : Station :=
  match station.broker.inbound.stream? with
  | none => station
  | some stream =>
    { station with
      broker := (station.broker.found Broker.wire stream
        (findOn station.isOpen station.queue)).2
      queue := station.queue.tail }

theorem turned_idle {station : Station} (idle : station.broker.inbound.stream? = none) :
    station.turned = station := by
  simp only [turned, idle]

theorem turned_stream {station : Station} {stream : Stream}
    (reads : station.broker.inbound.stream? = some stream) : station.turned = { station with
      broker := (station.broker.found Broker.wire stream
        (findOn station.isOpen station.queue)).2
      queue := station.queue.tail } := by
  simp only [turned, reads]

/-- A station when something was done to its broker. -/
def performs (act : Act) (station : Station) : Station :=
  match act with
  | .on _ (.turn _) => station.turned
  | act => { station with broker := (station.broker.perform Broker.wire act).2 }

theorem performs_of_not_turn {act : Act} (noTurn : ∀ bus index, act ≠ .on bus (.turn index))
    (station : Station) : station.performs act
      = { station with broker := (station.broker.perform Broker.wire act).2 } := by
  unfold performs
  split
  · exact absurd rfl (noTurn _ _)
  · rfl

def outlook (station : Station) : Outlook :=
  ⟨station.broker.clientCount, station.broker.listening, station.broker.stats⟩

end Station

abbrev Exchange := List Station

namespace Exchange

/-- The channel and the message of the write that an act makes, if it makes one. -/
def writing? (exchange : Exchange) : Act → Option (String × Bytes)
  | .on _ (.write channel message) => some (channel, message)
  | act => (act.broker?.bind (exchange[·]?)).bind (·.broker.writing? act)

/-- What an act leaves of a station. -/
def after (exchange : Exchange) (act : Act) (index : Nat) (station : Station) : Station :=
  match act with
  | .on _ .shutdown => { station with isOpen := false }
  | act => (if act.broker? = some index then station.performs act else station).hears
      (exchange.writing? act)

/-- The station of the broker that an act starts. -/
def starting (exchange : Exchange) : Act → List Station
  | .on _ (.start config) => [.opened exchange.length config]
  | _ => []

def act (exchange : Exchange) (act : Act) : Exchange :=
  exchange.mapIdx (exchange.after act) ++ exchange.starting act

def acts (exchange : Exchange) (acts : List Act) : Exchange := acts.foldl act exchange

def outlook? (exchange : Exchange) (index : Nat) : Option Outlook :=
  (exchange[index]?).map Station.outlook

/-- What the receiver of a client finds if it looks now. -/
def findable (id : ClientId) (exchange : Exchange) : Except QueueEnd Message :=
  ((exchange[id.registry]?).map fun station =>
    (station.broker.registry.receive id.serial).2).getD (.error .closed)

/-- What the receiver of a client finds in a run, one after the other. -/
def received (id : ClientId) (exchange : Exchange) : List Act → List (Except QueueEnd Message)
  | [] => []
  | act :: acts => (if act.receives id then [exchange.findable id] else [])
    ++ (exchange.act act).received id acts

variable {exchange : Exchange} {index : Nat} {station : Station}

theorem length_act (exchange : Exchange) (act : Act) :
    (exchange.act act).length = exchange.length + (exchange.starting act).length := by
  rw [Exchange.act, List.length_append, List.length_mapIdx]

theorem starting_of_not_start {act : Act} (others : ∀ bus config, act ≠ .on bus (.start config))
    (exchange : Exchange) : exchange.starting act = [] := by
  unfold starting
  split
  · exact absurd rfl (others _ _)
  · rfl

theorem getElem?_act (here : exchange[index]? = some station) (act : Act) :
    (exchange.act act)[index]? = some (exchange.after act index station) := by
  have inside := (List.getElem?_eq_some_iff.mp here).1
  rw [Exchange.act, List.getElem?_append_left (by rwa [List.length_mapIdx]), List.getElem?_mapIdx,
    here]
  rfl

theorem after_of_not_shutdown {act : Act} (goesOn : ∀ bus, act ≠ .on bus .shutdown)
    (exchange : Exchange) (index : Nat) (station : Station) :
    exchange.after act index station
      = (if act.broker? = some index then station.performs act else station).hears
        (exchange.writing? act) := by
  unfold after
  split
  · exact absurd rfl (goesOn _)
  · rfl

/-- What is done to a broker is written by it, if anything is. -/
theorem writing?_of_names {act : Act} (names : act.broker? = some index) :
    exchange.writing? act = (exchange[index]?).bind (·.broker.writing? act) := by
  unfold writing?
  split
  · contradiction
  · rw [names, Option.bind_some]

/-- An act that names a broker which is not there does nothing. -/
theorem act_of_absent {act : Act} (names : act.broker? = some index)
    (absent : exchange[index]? = none) : exchange.act act = exchange := by
  have goesOn : ∀ bus, act ≠ .on bus .shutdown := by
    rintro bus rfl
    contradiction
  have nobody : exchange.starting act = [] := by
    refine starting_of_not_start ?_ exchange
    rintro bus config rfl
    contradiction
  have silent : exchange.writing? act = none := by
    rw [writing?_of_names names, absent, Option.bind_none]
  rw [Exchange.act, nobody, List.append_nil]
  apply List.ext_getElem?
  intro i
  rw [List.getElem?_mapIdx]
  cases here : exchange[i]? with
  | none => rfl
  | some station =>
    have other : act.broker? ≠ some i := by
      intro same
      cases names.symm.trans same
      rw [absent] at here
      contradiction
    rw [Option.map_some, after_of_not_shutdown goesOn, if_neg other, silent]
    rfl

/-- A station is there before an act, or is the one of the broker that the act starts. -/
theorem before_act {act : Act} (there : (exchange.act act)[index]? = some station) :
    (∃ before, exchange[index]? = some before ∧ station = exchange.after act index before) ∨
      ∃ bus config, act = .on bus (.start config) ∧ index = exchange.length ∧
        station = .opened index config := by
  rcases Nat.lt_or_ge index exchange.length with inside | outside
  · have here := List.getElem?_eq_getElem inside
    rw [getElem?_act here] at there
    exact .inl ⟨_, here, (Option.some.inj there).symm⟩
  · right
    have bound := (List.getElem?_eq_some_iff.mp there).1
    rw [length_act] at bound
    rw [Exchange.act, List.getElem?_append_right (by rwa [List.length_mapIdx]),
      List.length_mapIdx] at there
    unfold starting at bound there
    split at there
    · rename_i bus config
      have last : index = exchange.length := by
        simp only [List.length_singleton] at bound
        omega
      rw [last, Nat.sub_self, List.getElem?_cons_zero, Option.some.injEq] at there
      exact ⟨bus, config, rfl, last, by rw [last, there]⟩
    · contradiction

end Exchange

end Fanout
