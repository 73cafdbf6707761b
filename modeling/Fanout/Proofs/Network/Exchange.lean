import Fanout.Proofs.Network.Station

/-! A network whose buses are a medium goes on as an exchange does: every broker is what its station is, and
its stream has the station's messages to come, as long as no loop learns that it has lost some. So all
that is observed of such a network is observed of the exchange. -/

namespace Fanout

/-- The broker whose loop has a turn in an act. -/
def Act.turning? : Act → Option Nat
  | .on _ (.turn index) => some index
  | _ => none

theorem Act.turning?_eq {act : Act} {index : Nat} (turns : act.turning? ≠ none)
    (names : act.broker? = some index) : act.turning? = some index := by
  cases act with
  | closing j | stop bus => exact absurd rfl turns
  | on bus step =>
    cases step with
    | turn j => exact names
    | start | write | shutdown | publish | subscribe | close | unsubscribe | dropHandle
    | dropReceiver | receive => exact absurd rfl turns

namespace Network

/-- Whether a loop learns in an act that it has lost messages. -/
def lags (network : Network) (act : Act) : Bool :=
  match act.turning?.bind network.read? with
  | some (.lagged _) => true
  | _ => false

/-- Whether no loop learns in a run that it has lost messages. -/
def keepsUp (network : Network) : List Act → Bool
  | [] => true
  | act :: acts => !network.lags act && (network.act act).keepsUp acts

variable {network : Network}

theorem keepsUp_cons {act : Act} {acts : List Act} : network.keepsUp (act :: acts) = true
    ↔ network.lags act = false ∧ (network.act act).keepsUp acts = true := by
  rw [keepsUp, Bool.and_eq_true, Bool.not_eq_true']

theorem keepsUp_append {before later : List Act} : network.keepsUp (before ++ later) = true
    ↔ network.keepsUp before = true ∧ (network.acts before).keepsUp later = true := by
  induction before generalizing network with
  | nil => simp [keepsUp, acts]
  | cons act before ih =>
    rw [List.cons_append, keepsUp_cons, keepsUp_cons, ih, and_assoc]
    rfl

/-- A loop that does not learn that it has lost messages finds something else. -/
theorem not_lagged {act : Act} {index : Nat} {broker : Broker} {stream : Stream}
    (smooth : network.lags act = false) (turns : act.turning? = some index)
    (here : network.brokers[index]? = some broker)
    (reads : broker.inbound.stream? = some stream) (lost : Nat) :
    (network.fabric.next stream).value.2 ≠ .item (.lagged lost) := by
  intro found
  have read : network.read? index = some (.lagged lost) := by
    simp [Network.read?, here, reads, found, Next.item?]
  rw [lags, turns, Option.bind_some, read] at smooth
  contradiction

end Network

namespace Medium

variable {medium : Medium} {fabric after : Fabric} {broker other : Broker} {station : Station}
  {write? : Option (String × Bytes)} {own : Option Stream} {network : Network} {exchange : Exchange}
  {index : Nat}

/-- The buses are passed on, and every stream but this one has come to know of the write. -/
structure Passes (medium : Medium) (fabric after : Fabric) (write? : Option (String × Bytes))
    (own : Option Stream) : Prop where
  sound : medium.Sound after
  waits : ∀ {stream name isOpen queue}, medium.Waits fabric stream name isOpen queue →
    own ≠ some stream → medium.Waits after stream name isOpen (arrive name isOpen write? queue)

theorem passes_refl (sound : medium.Sound fabric) (own : Option Stream) :
    medium.Passes fabric fabric none own :=
  ⟨sound, fun waits _ => waits⟩

theorem passes_write {bus : Nat} {channel : String} (sound : medium.Sound fabric)
    (takes : medium.Takes bus channel) (message : Bytes) :
    medium.Passes fabric (fabric.write bus channel message).value.1 (some (channel, message))
      none := by
  obtain ⟨_, sound', waits'⟩ := medium.write sound takes message
  exact ⟨sound', fun waits _ => waits' waits⟩

/-- The station is that of the broker: nothing else is known of it, and its messages are those that
the broker's stream has to come to. -/
structure Stands (medium : Medium) (fabric : Fabric) (broker : Broker) (station : Station) :
    Prop where
  past : station.broker = broker.past 0
  takes : medium.Takes broker.bus broker.channel
  waits : ∀ stream, broker.inbound.stream? = some stream →
    medium.Waits fabric stream broker.channel station.isOpen station.queue

theorem Stands.channel (stands : medium.Stands fabric broker station) :
    station.broker.channel = broker.channel :=
  congrArg (·.channel) stands.past

theorem Stands.writing? (stands : medium.Stands fabric broker station) (act : Act) :
    station.broker.writing? act = broker.writing? act := by
  rw [stands.past]
  rfl

/-- What others do is for a station what it hears of it. -/
theorem Stands.hears (stands : medium.Stands fabric broker station)
    (passes : medium.Passes fabric after write? own) (apart : ∀ stream,
      broker.inbound.stream? = some stream → own ≠ some stream) :
    medium.Stands after broker (station.hears write?) := by
  refine ⟨stands.past, stands.takes, fun stream reads => ?_⟩
  have waits := passes.waits (stands.waits stream reads) (apart stream reads)
  rw [← stands.channel] at waits ⊢
  exact waits

/-! ## What is done to a broker -/

theorem Stands.writes (stands : medium.Stands fabric broker station) (sound : medium.Sound fabric)
    (envelope : Envelope) : broker.writes fabric envelope = true :=
  (medium.write sound stands.takes envelope.encode).1

theorem Stands.passes_published (stands : medium.Stands fabric broker station)
    (sound : medium.Sound fabric) (event : Event Payload) :
    medium.Passes fabric (broker.published fabric event).1
      ((broker.written? event).map (broker.channel, ·)) none := by
  cases closed : broker.closed with
  | true =>
    rw [Broker.published_closed closed, Broker.written?, if_pos closed]
    exact passes_refl sound none
  | false =>
    cases sealed : Envelope.sealEvent event with
    | error fault =>
      rw [Broker.published_error closed sealed, Broker.written?, closed, sealed]
      exact passes_refl sound none
    | ok envelope =>
      rw [Broker.published_sealed closed sealed, Broker.written?, closed, sealed]
      exact passes_write sound stands.takes envelope.encode

theorem Stands.passes_turned (stands : medium.Stands fabric broker station)
    (sound : medium.Sound fabric) (keepsUp : ∀ stream, broker.inbound.stream? = some stream →
      ∀ lost, (fabric.next stream).value.2 ≠ .item (.lagged lost)) :
    medium.Passes fabric (broker.turned fabric).1 none broker.inbound.stream? := by
  cases reads : broker.inbound.stream? with
  | none =>
    rw [Broker.turned_idle reads]
    exact passes_refl sound none
  | some stream =>
    obtain ⟨_, sound', own, others⟩ :=
      medium.next sound (stands.waits stream reads) (keepsUp stream reads)
    have passes : medium.Passes fabric (fabric.next stream).value.1 none (some stream) :=
      ⟨sound', fun waits different => others waits fun same => different (congrArg some same.symm)⟩
    rw [Broker.turned_stream reads]
    cases (fabric.next stream).value.2 with
    | pending | item _ => exact passes
    | ended =>
      obtain ⟨sound'', others'⟩ := medium.drop sound' own
      exact ⟨sound'', fun waits different => others' (passes.waits waits different)
        fun same => different (congrArg some same.symm)⟩

theorem Stands.passes_shut (stands : medium.Stands fabric broker station)
    (sound : medium.Sound fabric) :
    medium.Passes fabric (broker.shut fabric).1 none broker.inbound.stream? := by
  unfold Broker.shut
  cases reads : broker.inbound.stream? with
  | none => exact passes_refl sound none
  | some stream =>
    obtain ⟨sound', others⟩ := medium.drop sound (stands.waits stream reads)
    exact ⟨sound', fun waits different =>
      others waits fun same => different (congrArg some same.symm)⟩

/-- Where the loop has no turn and is not ended, the broker's own stream comes to know of a write as
well. -/
theorem Stands.passes_calm (stands : medium.Stands fabric broker station)
    (sound : medium.Sound fabric) {act : Act} (noTurn : ∀ bus j, act ≠ .on bus (.turn j))
    (noClose : ∀ bus j, act ≠ .on bus (.close j)) :
    medium.Passes fabric (broker.perform fabric act).1 (broker.writing? act) none := by
  cases act with
  | closing j | stop bus => exact passes_refl sound none
  | on bus step =>
    cases step with
    | turn j => exact absurd rfl (noTurn bus j)
    | close j => exact absurd rfl (noClose bus j)
    | publish j event => exact stands.passes_published sound event
    | start | write | shutdown | subscribe | unsubscribe | dropHandle | dropReceiver | receive =>
      exact passes_refl sound none

/-- What is done to a broker is passed on to the streams of all others. -/
theorem Stands.passes_perform (stands : medium.Stands fabric broker station)
    (sound : medium.Sound fabric) {act : Act} (keepsUp : act.turning? ≠ none → ∀ stream,
      broker.inbound.stream? = some stream →
      ∀ lost, (fabric.next stream).value.2 ≠ .item (.lagged lost)) :
    medium.Passes fabric (broker.perform fabric act).1 (broker.writing? act)
      broker.inbound.stream? := by
  by_cases turns : ∃ bus j, act = .on bus (.turn j)
  · obtain ⟨bus, j, rfl⟩ := turns
    exact stands.passes_turned sound (keepsUp (Option.some_ne_none j))
  by_cases closes : ∃ bus j, act = .on bus (.close j)
  · obtain ⟨bus, j, rfl⟩ := closes
    exact stands.passes_shut sound
  · obtain ⟨sound', waits'⟩ := stands.passes_calm sound
      (fun bus j same => turns ⟨bus, j, same⟩) fun bus j same => closes ⟨bus, j, same⟩
    exact ⟨sound', fun waits _ => waits' waits (Option.some_ne_none _).symm⟩

theorem Stands.turned (stands : medium.Stands fabric broker station)
    (sound : medium.Sound fabric) (keepsUp : ∀ stream, broker.inbound.stream? = some stream →
      ∀ lost, (fabric.next stream).value.2 ≠ .item (.lagged lost)) :
    medium.Stands (broker.turned fabric).1 (broker.turned fabric).2 station.turned := by
  cases reads : broker.inbound.stream? with
  | none =>
    rw [Broker.turned_idle reads, Station.turned_idle (Broker.idle_of_past stands.past reads)]
    exact stands
  | some stream =>
    obtain ⟨finds, sound', own, _⟩ :=
      medium.next sound (stands.waits stream reads) (keepsUp stream reads)
    have reads' := Broker.reads_of_past stands.past reads
    have remains := broker.remains_turned fabric
    rw [Broker.turned_stream reads, finds] at remains ⊢
    rw [Station.turned_stream reads', stands.past]
    refine ⟨((Broker.masks_past 0).found ..).symm, ?_, fun after same' => ?_⟩
    · rw [remains.bus, remains.channel]
      exact stands.takes
    · rcases remains.loop with ⟨same, _⟩ | ⟨gone, _⟩
      · cases (reads.symm.trans same.symm).trans same'
        rw [remains.channel]
        cases found : findOn station.isOpen station.queue with
        | pending | item _ => exact own
        | ended =>
          rw [found] at same'
          contradiction
      · rw [gone] at same'
        contradiction

/-- The station follows what is done to its broker. -/
theorem Stands.perform (stands : medium.Stands fabric broker station)
    (sound : medium.Sound fabric) {act : Act} (keepsUp : act.turning? ≠ none → ∀ stream,
      broker.inbound.stream? = some stream →
      ∀ lost, (fabric.next stream).value.2 ≠ .item (.lagged lost)) :
    medium.Stands (broker.perform fabric act).1 (broker.perform fabric act).2
      ((station.performs act).hears (broker.writing? act)) := by
  by_cases turns : ∃ bus j, act = .on bus (.turn j)
  · obtain ⟨bus, j, rfl⟩ := turns
    exact stands.turned sound (keepsUp (Option.some_ne_none j))
  have noTurn : ∀ bus j, act ≠ .on bus (.turn j) := fun bus j same => turns ⟨bus, j, same⟩
  have remains := broker.remains_perform fabric act
  have past : (station.broker.perform Broker.wire act).2 = (broker.perform fabric act).2.past 0 := by
    rw [stands.past, Broker.past_perform 0 noTurn (stands.writes sound)]
  rw [Station.performs_of_not_turn noTurn]
  refine ⟨past, ?_, fun stream reads => ?_⟩
  · rw [remains.bus, remains.channel]
    exact stands.takes
  · rcases remains.loop with ⟨same, _⟩ | ⟨gone, _⟩
    · have noClose : ∀ bus j, act ≠ .on bus (.close j) := by
        rintro bus j rfl
        rw [Broker.perform, Broker.shut_stream] at reads
        contradiction
      have waits := (stands.passes_calm sound noTurn noClose).waits
        (stands.waits stream (same.symm.trans reads)) (Option.some_ne_none stream).symm
      have channel : (station.broker.perform Broker.wire act).2.channel = broker.channel :=
        (congrArg (·.channel) past).trans remains.channel
      simp only [remains.channel, Station.hears, channel]
      exact waits
    · rw [gone] at reads
      contradiction

/-! ## A whole network -/

/-- The network is for its brokers what the exchange is. -/
structure Realizes (medium : Medium) (network : Network) (exchange : Exchange) : Prop where
  sound : medium.Sound network.fabric
  length : exchange.length = network.brokers.length
  stands : ∀ (i : Nat) (broker : Broker) (station : Station), network.brokers[i]? = some broker →
    exchange[i]? = some station → medium.Stands network.fabric broker station
  alone : ∀ (i j : Nat) (broker other : Broker) (stream : Stream),
    network.brokers[i]? = some broker → network.brokers[j]? = some other →
    broker.inbound.stream? = some stream → other.inbound.stream? = some stream → i = j

/-- An act on buses that can be used for it. -/
def Admits (medium : Medium) : Act → Prop
  | .on bus (.start config) => medium.Takes bus config.channel
  | .on bus (.write channel _) => medium.Takes bus channel
  | .on bus .shutdown | .stop bus => medium.Ends bus
  | _ => True

/-- An act that starts no broker leaves every loop on its stream, or without one. -/
theorem stream_before {i : Nat} {broker' : Broker} {stream : Stream} (act : Act)
    (here : network.brokers[i]? = some broker)
    (there : (network.act act).brokers[i]? = some broker')
    (reads : broker'.inbound.stream? = some stream) : broker.inbound.stream? = some stream := by
  cases (Network.broker_act act here).symm.trans there
  split at reads
  · rcases (broker.remains_perform network.fabric act).loop with ⟨same, _⟩ | ⟨gone, _⟩
    · exact same.symm.trans reads
    · rw [gone] at reads
      contradiction
  · exact reads

namespace Realizes

variable (realizes : medium.Realizes network exchange)
include realizes

/-- A broker has its station. -/
theorem exists_station (here : network.brokers[index]? = some broker) :
    ∃ station, exchange[index]? = some station ∧
      medium.Stands network.fabric broker station := by
  obtain ⟨station, there⟩ := exists_getElem? (Nat.le_of_eq realizes.length.symm) here
  exact ⟨station, there, realizes.stands index broker station here there⟩

theorem absent (here : network.brokers[index]? = none) : exchange[index]? = none := by
  rw [List.getElem?_eq_none_iff, realizes.length]
  exact List.getElem?_eq_none_iff.mp here

/-- What remains to be shown of an act that starts no broker. -/
theorem step {act : Act} (starts : ∀ bus config, act ≠ .on bus (.start config))
    (sound : medium.Sound (network.act act).fabric)
    (follows : ∀ (i : Nat) (broker : Broker) (station : Station),
      network.brokers[i]? = some broker → exchange[i]? = some station →
      medium.Stands network.fabric broker station →
      medium.Stands (network.act act).fabric
        (if act.broker? = some i then (broker.perform network.fabric act).2 else broker)
        (exchange.after act i station)) :
    medium.Realizes (network.act act) (exchange.act act) := by
  have before {i : Nat} {broker' : Broker} (there : (network.act act).brokers[i]? = some broker') :
      ∃ broker, network.brokers[i]? = some broker := by
    rcases Network.broker_before there with before | ⟨bus, config, same, _⟩
    · exact before
    · exact absurd same (starts bus config)
  constructor
  case sound => exact sound
  case length =>
    rw [Exchange.length_act, Exchange.starting_of_not_start starts, Network.length_act starts]
    exact realizes.length
  case stands =>
    intro i broker' station' there there'
    obtain ⟨broker, here⟩ := before there
    obtain ⟨station, here', stands⟩ := realizes.exists_station here
    cases (Network.broker_act act here).symm.trans there
    cases (Exchange.getElem?_act here' act).symm.trans there'
    exact follows i broker station here here' stands
  case alone =>
    intro i j broker' other' stream there there' reads reads'
    obtain ⟨broker, here⟩ := before there
    obtain ⟨other, here'⟩ := before there'
    exact realizes.alone i j broker other stream here here' (stream_before act here there reads)
      (stream_before act here' there' reads')

theorem act_start {bus : Nat} {config : BrokerConfig} (takes : medium.Takes bus config.channel) :
    medium.Realizes (network.act (.on bus (.start config)))
      (exchange.act (.on bus (.start config))) := by
  obtain ⟨stream, opened, sound, waits, others⟩ := medium.subscribe realizes.sound takes
  rw [Network.act_start, opened]
  have reads : (Broker.fresh bus network.brokers.length config (.ok stream)).inbound.stream?
      = some stream := rfl
  have fresh {i : Nat} {broker : Broker} {own : Stream} (here : network.brokers[i]? = some broker)
      (reads : broker.inbound.stream? = some own) : own ≠ stream := by
    obtain ⟨station, _, stands⟩ := realizes.exists_station here
    exact (others (stands.waits own reads)).1
  constructor
  case sound => exact sound
  case length =>
    rw [Exchange.length_act, List.length_append, realizes.length]
    rfl
  case stands =>
    intro i broker station here there
    rcases Exchange.before_act there with ⟨before, there', rfl⟩ | ⟨_, _, same, atEnd, rfl⟩
    · rcases getElem?_snoc_cases here with old | ⟨atEnd, _⟩
      · have stands := realizes.stands i broker before old there'
        exact ⟨stands.past, stands.takes, fun own reads => (others (stands.waits own reads)).2⟩
      · have inside := (List.getElem?_eq_some_iff.mp there').1
        rw [realizes.length] at inside
        omega
    · cases same
      rw [realizes.length] at atEnd
      rw [atEnd, List.getElem?_concat_length] at here
      cases here
      refine ⟨by rw [atEnd]; rfl, takes, fun own same => ?_⟩
      cases same
      exact waits
  case alone =>
    intro i j broker other own here there reads' reads''
    rcases getElem?_snoc_cases here with old | ⟨atEnd, rfl⟩
    · rcases getElem?_snoc_cases there with old' | ⟨atEnd', rfl⟩
      · exact realizes.alone i j broker other own old old' reads' reads''
      · cases reads''
        exact absurd rfl (fresh old reads')
    · rcases getElem?_snoc_cases there with old' | ⟨atEnd', rfl⟩
      · cases reads'
        exact absurd rfl (fresh old' reads'')
      · exact atEnd.trans atEnd'.symm

theorem act_write {bus : Nat} {channel : String} (takes : medium.Takes bus channel)
    (message : Bytes) : medium.Realizes (network.act (.on bus (.write channel message)))
      (exchange.act (.on bus (.write channel message))) := by
  have passes := passes_write realizes.sound takes message
  refine realizes.step (fun _ _ => nofun) passes.sound ?_
  intro i broker station _ _ stands
  exact stands.hears passes fun stream _ => (Option.some_ne_none stream).symm

theorem act_shutdown {bus : Nat} (ends : medium.Ends bus) :
    medium.Realizes (network.act (.on bus .shutdown)) (exchange.act (.on bus .shutdown)) := by
  obtain ⟨sound, waits⟩ := medium.shutdown realizes.sound ends
  refine realizes.step (fun _ _ => nofun) sound ?_
  intro i broker station _ _ stands
  exact ⟨stands.past, stands.takes, fun stream reads => waits (stands.waits stream reads)⟩

theorem act_stop {bus : Nat} (ends : medium.Ends bus) :
    medium.Realizes (network.act (.stop bus)) (exchange.act (.stop bus)) := by
  have same : network.act (.stop bus) = network := by
    rw [Network.act, medium.stop realizes.sound ends]
  have starts : ∀ other config, Act.stop bus ≠ .on other (.start config) := by
    rintro other config ⟨⟩
  refine realizes.step starts ?_ ?_
  · rw [same]
    exact realizes.sound
  · intro i broker station _ _ stands
    rw [same]
    exact stands

theorem act_perform {act : Act} (names : act.broker? = some index)
    (smooth : network.lags act = false) :
    medium.Realizes (network.act act) (exchange.act act) := by
  cases here : network.brokers[index]? with
  | none =>
    rw [Network.act_of_absent names here, Exchange.act_of_absent names (realizes.absent here)]
    exact realizes
  | some broker =>
    obtain ⟨station, there, stands⟩ := realizes.exists_station here
    have goesOn : ∀ bus, act ≠ .on bus .shutdown := by
      rintro bus rfl
      contradiction
    have starts : ∀ bus config, act ≠ .on bus (.start config) := by
      rintro bus config rfl
      contradiction
    have keepsUp (turns : act.turning? ≠ none) (stream : Stream)
        (reads : broker.inbound.stream? = some stream) (lost : Nat) :
        (network.fabric.next stream).value.2 ≠ .item (.lagged lost) :=
      Network.not_lagged smooth (Act.turning?_eq turns names) here reads lost
    have passes := stands.passes_perform realizes.sound keepsUp
    have fabric : (network.act act).fabric = (broker.perform network.fabric act).1 := by
      rw [Network.act_eq_put names here]
      rfl
    have writes : exchange.writing? act = broker.writing? act := by
      rw [Exchange.writing?_of_names names, there, Option.bind_some, stands.writing?]
    refine realizes.step starts (fabric ▸ passes.sound) ?_
    intro i other station' here' there' stands'
    rw [Exchange.after_of_not_shutdown goesOn, fabric, writes]
    by_cases own : act.broker? = some i
    · rw [if_pos own, if_pos own]
      cases names.symm.trans own
      cases here.symm.trans here'
      exact stands'.perform realizes.sound keepsUp
    · rw [if_neg own, if_neg own]
      refine stands'.hears passes fun stream reads reads' => own ?_
      rw [names, realizes.alone index i broker other stream here here' reads' reads]

/-- An act on buses that can be used for it is for the network what it is for the exchange. -/
theorem act {act : Act} (admits : medium.Admits act)
    (smooth : network.lags act = false) :
    medium.Realizes (network.act act) (exchange.act act) := by
  cases names : act.broker? with
  | none =>
    rcases Network.of_names_none names with
      ⟨bus, config, rfl⟩ | ⟨bus, channel, message, rfl⟩ | ⟨bus, rfl⟩ | ⟨bus, rfl⟩
    · exact realizes.act_start admits
    · exact realizes.act_write admits message
    · exact realizes.act_shutdown admits
    · exact realizes.act_stop admits
  | some index => exact realizes.act_perform names smooth

theorem acts {acts : List Act} (admits : ∀ act ∈ acts, medium.Admits act)
    (keepsUp : network.keepsUp acts = true) :
    medium.Realizes (network.acts acts) (exchange.acts acts) := by
  induction acts generalizing network exchange with
  | nil => exact realizes
  | cons act acts ih =>
    obtain ⟨smooth, keepsUp⟩ := Network.keepsUp_cons.mp keepsUp
    exact ih (realizes.act (admits act List.mem_cons_self) smooth)
      (fun act member => admits act (List.mem_cons_of_mem _ member)) keepsUp

/-! ## What is observed -/

theorem brokers_eq (index : Nat) :
    (exchange[index]?).map (·.broker) = (network.brokers[index]?).map (·.past 0) := by
  cases here : network.brokers[index]? with
  | none =>
    rw [realizes.absent here]
    rfl
  | some broker =>
    obtain ⟨station, there, stands⟩ := realizes.exists_station here
    rw [there, Option.map_some, stands.past]
    rfl

theorem outlook?_eq (index : Nat) : network.outlook? index = exchange.outlook? index := by
  have same : exchange.outlook? index = ((exchange[index]?).map (·.broker)).map fun broker =>
      ⟨broker.clientCount, broker.listening, broker.stats⟩ := by
    rw [Option.map_map]
    rfl
  rw [same, realizes.brokers_eq, Option.map_map, Network.outlook?]
  refine congrArg (Option.map · _) (funext fun broker => ?_)
  have stats : (broker.past 0).stats = broker.stats := broker.stats.malformed_zero
  rw [Function.comp_apply, stats]
  rfl

theorem findable_eq (id : ClientId) : network.findable id = exchange.findable id := by
  have same : (exchange[id.registry]?).map (fun station =>
      (station.broker.registry.receive id.serial).2)
      = ((exchange[id.registry]?).map (·.broker)).map fun broker =>
        (broker.registry.receive id.serial).2 := by
    rw [Option.map_map]
    rfl
  rw [Network.findable, Exchange.findable, same, realizes.brokers_eq, Option.map_map]
  refine congrArg (Option.getD · _) (congrArg (Option.map · _) (funext fun broker => ?_))
  rw [Function.comp_apply, Registry.receive_snd, Registry.receive_snd]
  rfl

theorem received_eq (id : ClientId) {acts : List Act} (admits : ∀ act ∈ acts, medium.Admits act)
    (keepsUp : network.keepsUp acts = true) : network.received id acts = exchange.received id acts := by
  induction acts generalizing network exchange with
  | nil => rfl
  | cons act acts ih =>
    obtain ⟨smooth, keepsUp⟩ := Network.keepsUp_cons.mp keepsUp
    rw [Network.received, Exchange.received, realizes.findable_eq,
      ih (realizes.act (admits act List.mem_cons_self) smooth)
        (fun act member => admits act (List.mem_cons_of_mem _ member)) keepsUp]

end Realizes

/-! ## One bus in memory -/

theorem realizes_nil (sound : medium.Sound fabric) :
    medium.Realizes ⟨fabric, []⟩ [] :=
  ⟨sound, rfl, fun _ _ _ _ => nofun, fun _ _ _ _ _ => nofun⟩

theorem realizes_onBus (capacity : Nat) :
    (memory capacity).Realizes (Network.onBus capacity) [] :=
  have orderly := Network.orderly_onBus capacity
  realizes_nil ⟨orderly.tidy.sane, orderly.single⟩

end Medium

/-- The same act where all brokers share the first bus. -/
def Act.shared : Act → Act
  | .on _ step => .on 0 step
  | .closing broker => .closing broker
  | .stop _ => .stop 0

theorem Act.receives_shared (id : ClientId) (act : Act) :
    act.shared.receives id = act.receives id := by
  cases act with
  | closing j | stop bus => rfl
  | on bus step => cases step <;> rfl

theorem Act.admits_shared (capacity : Nat) (act : Act) :
    (Medium.memory capacity).Admits act.shared := by
  cases act with
  | closing j | stop bus => trivial
  | on bus step =>
    cases step with
    | start | write | shutdown => rfl
    | publish | turn | subscribe | close | unsubscribe | dropHandle | dropReceiver | receive =>
      trivial

namespace Exchange

/-- It does not matter to an exchange on which bus an act is. -/
theorem act_shared (exchange : Exchange) (act : Act) :
    exchange.act act.shared = exchange.act act := by
  cases act with
  | closing j | stop bus => rfl
  | on bus step => cases step <;> rfl

theorem acts_shared (exchange : Exchange) (acts : List Act) :
    exchange.acts (acts.map .shared) = exchange.acts acts := by
  induction acts generalizing exchange with
  | nil => rfl
  | cons act acts ih => exact (congrArg (Exchange.acts · _) (exchange.act_shared act)).trans (ih _)

theorem received_shared (id : ClientId) (exchange : Exchange) (acts : List Act) :
    exchange.received id (acts.map .shared) = exchange.received id acts := by
  induction acts generalizing exchange with
  | nil => rfl
  | cons act acts ih =>
    rw [List.map_cons, received, received, Act.receives_shared, act_shared, ih]

end Exchange

end Fanout
