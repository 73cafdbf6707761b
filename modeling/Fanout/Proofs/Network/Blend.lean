import Fanout.Proofs.Network.Exchange

/-! Two exchanges, one of which has undecodable messages more. Beside the loop of each station stands which
of the messages that it has still to come to were added; apart from these and from what the counters of the
station tell of those that it has come to, both exchanges are the same. -/

namespace Fanout

/-- What a broker shows behind so many messages more that could not be decoded. -/
def Outlook.malformed (n : Nat) (outlook : Outlook) : Outlook :=
  { outlook with stats := outlook.stats.malformed n }

/-- The marks of the messages that a loop has still to come to, when there are so many of them behind an
act and there were so many before it. -/
def remark (added : Bool) (before after : Nat) (marks : List Bool) : List Bool :=
  marks.drop (before - after) ++ List.replicate (after - before) added

section

variable (added : Bool) (n : Nat) {before after : Nat} {marks : List Bool}

theorem remark_self (marks : List Bool) : remark added n n marks = marks := by
  simp [remark]

theorem remark_succ (marks : List Bool) : remark added n (n + 1) marks = marks ++ [added] := by
  simp [remark]

theorem remark_tail (queue : List Bytes) (length : marks.length = queue.length) :
    remark added queue.length queue.tail.length marks = marks.tail := by
  cases queue with
  | nil => simp [remark, List.eq_nil_of_length_eq_zero length]
  | cons message queue => simp [remark]

theorem length_remark (length : marks.length = before) :
    (remark added before after marks).length = after := by
  rw [remark, List.length_append, List.length_drop, List.length_replicate]
  omega

end

/-- The second queue is the first one with undecodable messages where the marks are set. -/
inductive Mixed : List Bool → List Bytes → List Bytes → Prop where
  | nil : Mixed [] [] []
  | own {marks : List Bool} {queue queue' : List Bytes} {message : Bytes} :
      Mixed marks queue queue' → Mixed (false :: marks) (message :: queue) (message :: queue')
  | added {marks : List Bool} {queue queue' : List Bytes} {message : Bytes} {fault : Error} :
      Envelope.decode message = .error fault → Mixed marks queue queue' →
      Mixed (true :: marks) queue (message :: queue')

namespace Mixed

variable {marks : List Bool} {queue queue' : List Bytes} {message : Bytes}

theorem length (mixed : Mixed marks queue queue') : marks.length = queue'.length := by
  induction mixed with
  | nil => rfl
  | own _ ih | added _ _ ih => rw [List.length_cons, List.length_cons, ih]

theorem snoc_own (mixed : Mixed marks queue queue') (message : Bytes) :
    Mixed (marks ++ [false]) (queue ++ [message]) (queue' ++ [message]) := by
  induction mixed with
  | nil => exact .own .nil
  | own _ ih => exact .own ih
  | added undecodable _ ih => exact .added undecodable ih

theorem snoc_added (mixed : Mixed marks queue queue') {fault : Error}
    (undecodable : Envelope.decode message = .error fault) :
    Mixed (marks ++ [true]) queue (queue' ++ [message]) := by
  induction mixed with
  | nil => exact .added undecodable .nil
  | own _ ih => exact .own ih
  | added undecodable _ ih => exact .added undecodable ih

/-- A write of the run comes to both queues. -/
theorem arrive_own (mixed : Mixed marks queue queue') (name : String) (isOpen : Bool)
    (write? : Option (String × Bytes)) :
    Mixed (remark false queue'.length (arrive name isOpen write? queue').length marks)
      (arrive name isOpen write? queue) (arrive name isOpen write? queue') := by
  unfold arrive
  split
  · split
    · rw [List.length_append, List.length_singleton, remark_succ]
      exact mixed.snoc_own _
    · rw [remark_self]
      exact mixed
  · rw [remark_self]
    exact mixed

/-- A write that was added comes to the second queue only. -/
theorem arrive_added (mixed : Mixed marks queue queue') (name : String) (isOpen : Bool)
    (channel : String) {fault : Error} (undecodable : Envelope.decode message = .error fault) :
    Mixed (remark true queue'.length
        (arrive name isOpen (some (channel, message)) queue').length marks)
      queue (arrive name isOpen (some (channel, message)) queue') := by
  simp only [arrive]
  split
  · rw [List.length_append, List.length_singleton, remark_succ]
    exact mixed.snoc_added undecodable
  · rw [remark_self]
    exact mixed

/-- A loop that does not come to an added message finds the same on both queues. -/
theorem next_own (mixed : Mixed marks queue queue') (own : marks.head? ≠ some true) :
    (∀ isOpen, findOn isOpen queue' = findOn isOpen queue) ∧
      Mixed marks.tail queue.tail queue'.tail := by
  cases mixed with
  | nil => exact ⟨fun _ => rfl, .nil⟩
  | own mixed => exact ⟨fun _ => rfl, mixed⟩
  | added _ _ => exact absurd rfl own

theorem next_added (mixed : Mixed marks queue queue') (added : marks.head? = some true) :
    ∃ message fault, Envelope.decode message = .error fault ∧
      (∀ isOpen, findOn isOpen queue' = .item (.message message)) ∧
      Mixed marks.tail queue queue'.tail := by
  cases mixed with
  | nil => contradiction
  | own _ => simp at added
  | added undecodable mixed => exact ⟨_, _, undecodable, fun _ => rfl, mixed⟩

end Mixed

/-! ## One station in both runs -/

namespace Station

/-- How many messages the loop has still to come to, if it is there. -/
def waiting (station : Station) : Nat :=
  if station.broker.inbound.stream?.isSome then station.queue.length else 0

theorem waiting_of_goesOn {station : Station} (goesOn : station.broker.inbound.stream? ≠ none) :
    station.waiting = station.queue.length :=
  if_pos (Option.isSome_iff_ne_none.mpr goesOn)

theorem waiting_of_idle {station : Station} (idle : station.broker.inbound.stream? = none) :
    station.waiting = 0 := by
  rw [waiting, idle]
  rfl

/-- The station is in the other run as well, where its loop has come to so many added messages and has
the marked ones still to come to. -/
structure Blends (n : Nat) (marks : List Bool) (station station' : Station) : Prop where
  bus : station.broker.bus = 0
  past : station'.broker = station.broker.past n
  isOpen : station'.isOpen = station.isOpen
  length : marks.length = station'.waiting
  mixed : station.broker.inbound.stream? ≠ none → Mixed marks station.queue station'.queue

variable {n n' : Nat} {marks : List Bool} {station station' after after' : Station}

theorem blends_opened (number : Nat) (config : BrokerConfig) :
    Blends 0 [] (opened number config) (opened number config) :=
  ⟨rfl, (Broker.past_past 0 0 _).symm, rfl, rfl, fun _ => .nil⟩

namespace Blends

variable (blends : Blends n marks station station')
include blends

theorem channel : station'.broker.channel = station.broker.channel :=
  congrArg (·.channel) blends.past

/-- A loop comes to an added message only where it is there. -/
theorem reads_of_marks (head : marks.head? = some true) :
    ∃ stream, station.broker.inbound.stream? = some stream := by
  refine Option.ne_none_iff_exists'.mp fun idle => ?_
  have none := blends.length
  rw [waiting_of_idle (Broker.idle_of_past blends.past idle), List.length_eq_zero_iff] at none
  rw [none] at head
  contradiction

theorem writing? (act : Act) : station'.broker.writing? act = station.broker.writing? act := by
  rw [blends.past]
  rfl

/-- Where a loop is gone, it does not matter what is to come on its stream. -/
theorem follow {added : Bool} (remains : station.broker.Remains after.broker)
    (past : after'.broker = after.broker.past n') (isOpen : after'.isOpen = after.isOpen)
    (mixed : station.broker.inbound.stream? ≠ none → Mixed marks station.queue station'.queue →
      Mixed (remark added station'.queue.length after'.queue.length marks) after.queue
        after'.queue) :
    Blends n' (remark added station'.waiting after'.waiting marks) after after' := by
  refine ⟨remains.bus.trans blends.bus, past, isOpen, length_remark added blends.length,
    fun goesOn => ?_⟩
  have before : station.broker.inbound.stream? ≠ none := by
    rcases remains.loop with ⟨same, _⟩ | ⟨gone, _⟩
    · rwa [same] at goesOn
    · exact absurd gone goesOn
  rw [waiting_of_goesOn (Broker.goesOn_of_past blends.past before),
    waiting_of_goesOn (Broker.goesOn_of_past past goesOn)]
  exact mixed before (blends.mixed before)

theorem hears_own (write? : Option (String × Bytes)) :
    Blends n (remark false station'.waiting (station'.hears write?).waiting marks)
      (station.hears write?) (station'.hears write?) := by
  refine blends.follow (.refl _) blends.past blends.isOpen
    fun _ mixed => ?_
  simp only [hears, blends.channel, blends.isOpen]
  exact mixed.arrive_own ..

theorem hears_added (channel : String) {message : Bytes} {fault : Error}
    (undecodable : Envelope.decode message = .error fault) :
    Blends n (remark true station'.waiting (station'.hears (some (channel, message))).waiting marks)
      station (station'.hears (some (channel, message))) :=
  blends.follow (.refl _) blends.past blends.isOpen
    fun _ mixed => mixed.arrive_added _ _ channel undecodable

/-- A turn in the run, which comes to no added message. -/
theorem turned_own (own : marks.head? ≠ some true) :
    Blends n (remark false station'.waiting station'.turned.waiting marks) station.turned
      station'.turned := by
  cases reads : station.broker.inbound.stream? with
  | none =>
    rw [turned_idle reads, turned_idle (Broker.idle_of_past blends.past reads), remark_self]
    exact blends
  | some stream =>
    have mixed := blends.mixed (Option.ne_none_iff_exists'.mpr ⟨stream, reads⟩)
    obtain ⟨finds, mixed'⟩ := mixed.next_own own
    rw [turned_stream reads, turned_stream (Broker.reads_of_past blends.past reads)]
    refine blends.follow (Broker.remains_found reads ..) ?_ blends.isOpen fun _ _ => ?_
    · rw [blends.past, blends.isOpen, finds]
      exact ((Broker.masks_past n).found ..).symm
    · rw [remark_tail false _ mixed.length]
      exact mixed'

/-- A turn that was added. -/
theorem turned_added (head : marks.head? = some true) :
    Blends (n + 1) (remark true station'.waiting station'.turned.waiting marks) station
      station'.turned := by
  obtain ⟨stream, reads⟩ := blends.reads_of_marks head
  have mixed := blends.mixed (Option.ne_none_iff_exists'.mpr ⟨stream, reads⟩)
  obtain ⟨message, fault, undecodable, finds, mixed'⟩ := mixed.next_added head
  rw [turned_stream (Broker.reads_of_past blends.past reads)]
  refine blends.follow (.refl _) ?_ blends.isOpen fun _ _ => ?_
  · rw [blends.past, finds]
    exact ((Broker.masks_past n).found Broker.wire Broker.wire stream station.broker _).symm.trans
      ((Broker.past_of_malformed n undecodable reads _).trans (by rw [Nat.add_comm]))
  · rw [remark_tail true _ mixed.length]
    exact mixed'

/-- What is done to a broker in the run, and the write that it makes. -/
theorem performs {act : Act} (noTurn : ∀ bus j, act ≠ .on bus (.turn j))
    (write? : Option (String × Bytes)) :
    Blends n (remark false station'.waiting ((station'.performs act).hears write?).waiting marks)
      ((station.performs act).hears write?) ((station'.performs act).hears write?) := by
  have remains := station.broker.remains_perform Broker.wire act
  have past : (station'.broker.perform Broker.wire act).2
      = (station.broker.perform Broker.wire act).2.past n := by
    rw [blends.past]
    refine (Broker.past_perform n noTurn fun envelope => ?_).symm
    rw [Broker.writes, blends.bus]
    rfl
  have channel : (station'.broker.perform Broker.wire act).2.channel
      = (station.broker.perform Broker.wire act).2.channel := congrArg (·.channel) past
  rw [performs_of_not_turn noTurn, performs_of_not_turn noTurn]
  refine blends.follow remains past blends.isOpen fun _ mixed => ?_
  simp only [hears, channel, blends.isOpen]
  exact mixed.arrive_own ..

end Blends

end Station

/-! ## Both runs -/

namespace Exchange

def waiting (exchange : Exchange) (index : Nat) : Nat :=
  (exchange[index]?).elim 0 Station.waiting

/-- Every station is in the other run as well. -/
structure Blends (counts : Nat → Nat) (marks : Nat → List Bool) (exchange exchange' : Exchange) :
    Prop where
  length : exchange'.length = exchange.length
  stations : ∀ {i : Nat} {station station' : Station}, exchange[i]? = some station →
    exchange'[i]? = some station' → station.Blends (counts i) (marks i) station'
  absent : ∀ i, exchange.length ≤ i → counts i = 0 ∧ marks i = []

variable {counts : Nat → Nat} {marks : Nat → List Bool} {exchange exchange' : Exchange}

theorem waiting_of_station {i : Nat} {station : Station} (here : exchange[i]? = some station) :
    exchange.waiting i = station.waiting := by
  rw [waiting, here]
  rfl

theorem waiting_of_absent {i : Nat} (outside : exchange.length ≤ i) : exchange.waiting i = 0 := by
  rw [waiting, List.getElem?_eq_none outside]
  rfl

theorem after_turn (exchange : Exchange) (bus j i : Nat) (station : Station) :
    exchange.after (.on bus (.turn j)) i station = if j = i then station.turned else station := by
  have goesOn : ∀ other, Act.on bus (.turn j) ≠ .on other .shutdown := fun _ => nofun
  have silent : exchange.writing? (.on bus (.turn j)) = none := by
    rw [writing?_of_names rfl]
    cases exchange[j]? <;> rfl
  rw [after_of_not_shutdown goesOn, silent]
  by_cases same : j = i
  · subst same
    rw [if_pos rfl]
    exact if_pos rfl
  · rw [if_neg same]
    exact if_neg fun names => same (Option.some.inj names)

namespace Blends

theorem nil : Blends (fun _ => 0) (fun _ => []) [] [] :=
  ⟨rfl, nofun, fun _ _ => ⟨rfl, rfl⟩⟩

variable (blends : Blends counts marks exchange exchange')
include blends

theorem exists_station {i : Nat} {station' : Station} (there : exchange'[i]? = some station') :
    ∃ station, exchange[i]? = some station ∧ station.Blends (counts i) (marks i) station' := by
  obtain ⟨station, here⟩ := exists_getElem? (Nat.le_of_eq blends.length) there
  exact ⟨station, here, blends.stations here there⟩

theorem station_absent {i : Nat} (there : exchange'[i]? = none) : exchange[i]? = none := by
  rw [List.getElem?_eq_none_iff, blends.length] at there
  exact List.getElem?_eq_none there

theorem writing? (act : Act) : exchange'.writing? act = exchange.writing? act := by
  have same (index : Nat) : (exchange'[index]?).bind (·.broker.writing? act)
      = (exchange[index]?).bind (·.broker.writing? act) := by
    cases here : exchange'[index]? with
    | none => rw [blends.station_absent here]
    | some station' =>
      obtain ⟨station, there, pair⟩ := blends.exists_station here
      rw [there, Option.bind_some, Option.bind_some, pair.writing?]
  unfold Exchange.writing?
  split
  · rfl
  · cases act.broker? with
    | none => rfl
    | some index => exact same index

theorem starting_eq (act : Act) : exchange'.starting act = exchange.starting act := by
  unfold Exchange.starting
  rw [blends.length]

/-- An act of the run is in both runs. -/
theorem after_own {n i : Nat} {own : List Bool} {station station' : Station}
    (pair : station.Blends n own station') {act : Act}
    (misses : act.turning? = some i → own.head? ≠ some true) :
    Station.Blends n (remark false station'.waiting (exchange'.after act i station').waiting own)
      (exchange.after act i station) (exchange'.after act i station') := by
  by_cases ends : ∃ bus, act = .on bus .shutdown
  · obtain ⟨bus, rfl⟩ := ends
    exact pair.follow (.refl _) pair.past rfl
      fun _ mixed => (remark_self false station'.queue.length own).symm ▸ mixed
  by_cases turns : ∃ bus j, act = .on bus (.turn j)
  · obtain ⟨bus, j, rfl⟩ := turns
    rw [after_turn, after_turn]
    by_cases same : j = i
    · rw [if_pos same, if_pos same]
      exact pair.turned_own (misses (congrArg some same))
    · rw [if_neg same, if_neg same, remark_self]
      exact pair
  have goesOn : ∀ bus, act ≠ .on bus .shutdown := fun bus same => ends ⟨bus, same⟩
  have noTurn : ∀ bus j, act ≠ .on bus (.turn j) := fun bus j same => turns ⟨bus, j, same⟩
  rw [after_of_not_shutdown goesOn, after_of_not_shutdown goesOn, blends.writing?]
  by_cases names : act.broker? = some i
  · rw [if_pos names, if_pos names]
    exact pair.performs noTurn _
  · rw [if_neg names, if_neg names]
    exact pair.hears_own _

theorem act_own {act : Act} (misses : ∀ i, act.turning? = some i → (marks i).head? ≠ some true) :
    Blends counts
      (fun i => remark false (exchange'.waiting i) ((exchange'.act act).waiting i) (marks i))
      (exchange.act act) (exchange'.act act) := by
  have length : (exchange'.act act).length = (exchange.act act).length := by
    rw [length_act, length_act, blends.length, blends.starting_eq]
  constructor
  case length => exact length
  case stations =>
    intro i after after' here there
    rw [waiting_of_station there]
    rcases before_act there with ⟨station', there', rfl⟩ | ⟨bus, config, rfl, rfl, rfl⟩
    · obtain ⟨station, here', pair⟩ := blends.exists_station there'
      cases (getElem?_act here' act).symm.trans here
      rw [waiting_of_station there']
      exact blends.after_own pair (misses i)
    · -- A new loop has nothing to come to, so nothing that it has to come to was added.
      have outside : exchange.length ≤ exchange'.length := Nat.le_of_eq blends.length.symm
      rcases before_act here with ⟨station, here', _⟩ | ⟨_, _, same, _, rfl⟩
      · have inside := (List.getElem?_eq_some_iff.mp here').1
        omega
      · cases same
        obtain ⟨none, fresh⟩ := blends.absent _ outside
        rw [none, fresh, waiting_of_absent (Nat.le_refl _)]
        exact Station.blends_opened ..
  case absent =>
    intro i outside
    have before : exchange.length ≤ i := by
      rw [length_act] at outside
      omega
    obtain ⟨none, fresh⟩ := blends.absent i before
    rw [waiting_of_absent (Nat.le_trans (Nat.le_of_eq blends.length) before),
      waiting_of_absent (Nat.le_trans (Nat.le_of_eq length) outside), remark_self]
    exact ⟨none, fresh⟩

/-- An act that was added is in the second run only. -/
theorem beside {act : Act} {counts' : Nat → Nat}
    (others : ∀ bus config, act ≠ .on bus (.start config))
    (absent : ∀ i, exchange.length ≤ i → counts' i = 0)
    (pairs : ∀ {i station station'}, Station.Blends (counts i) (marks i) station station' →
      station.Blends (counts' i)
        (remark true station'.waiting (exchange'.after act i station').waiting (marks i))
        (exchange'.after act i station')) :
    Blends counts'
      (fun i => remark true (exchange'.waiting i) ((exchange'.act act).waiting i) (marks i))
      exchange (exchange'.act act) := by
  have length : (exchange'.act act).length = exchange'.length := by
    rw [length_act, starting_of_not_start others]
    rfl
  constructor
  case length => exact length.trans blends.length
  case stations =>
    intro i station after' here there
    rw [waiting_of_station there]
    rcases before_act there with ⟨station', there', rfl⟩ | ⟨bus, config, same, _⟩
    · rw [waiting_of_station there']
      exact pairs (blends.stations here there')
    · exact absurd same (others bus config)
  case absent =>
    intro i outside
    have outside' : exchange'.length ≤ i := Nat.le_trans (Nat.le_of_eq blends.length) outside
    refine ⟨absent i outside, ?_⟩
    rw [waiting_of_absent outside', waiting_of_absent (Nat.le_trans (Nat.le_of_eq length) outside'),
      remark_self]
    exact (blends.absent i outside).2

theorem write_added (bus : Nat) (channel : String) {message : Bytes} {fault : Error}
    (undecodable : Envelope.decode message = .error fault) :
    Blends counts
      (fun i => remark true (exchange'.waiting i)
        ((exchange'.act (.on bus (.write channel message))).waiting i) (marks i))
      exchange (exchange'.act (.on bus (.write channel message))) :=
  blends.beside (fun _ _ => nofun) (fun i outside => (blends.absent i outside).1)
    fun pair => pair.hears_added channel undecodable

theorem turn_added (bus : Nat) {j : Nat} (head : (marks j).head? = some true) :
    Blends (fun i => counts i + if j = i then 1 else 0)
      (fun i => remark true (exchange'.waiting i)
        ((exchange'.act (.on bus (.turn j))).waiting i) (marks i))
      exchange (exchange'.act (.on bus (.turn j))) := by
  refine blends.beside (fun _ _ => nofun) (fun i outside => ?_) fun {i station station'} pair => ?_
  · obtain ⟨none, fresh⟩ := blends.absent i outside
    rw [none, if_neg]
    rintro rfl
    rw [fresh] at head
    contradiction
  · rw [after_turn]
    by_cases same : j = i
    · subst same
      rw [if_pos rfl, if_pos rfl]
      exact pair.turned_added head
    · rw [if_neg same, if_neg same, remark_self]
      exact pair

/-! What is observed of both. -/

theorem findable_eq (id : ClientId) : exchange'.findable id = exchange.findable id := by
  unfold findable
  cases there : exchange'[id.registry]? with
  | none => rw [blends.station_absent there]
  | some station' =>
    obtain ⟨station, here, pair⟩ := blends.exists_station there
    rw [here, Option.map_some, Option.map_some, pair.past, Registry.receive_snd,
      Registry.receive_snd]
    rfl

theorem outlook?_eq (index : Nat) :
    exchange'.outlook? index = (exchange.outlook? index).map (·.malformed (counts index)) := by
  unfold outlook?
  cases there : exchange'[index]? with
  | none =>
    rw [blends.station_absent there]
    rfl
  | some station' =>
    obtain ⟨station, here, pair⟩ := blends.exists_station there
    rw [here, Option.map_some, Option.map_some, Option.map_some, Station.outlook, pair.past]
    rfl

end Blends

end Exchange

end Fanout
