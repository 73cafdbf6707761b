import Fanout.Proofs.Network.Closing
import Fanout.Proofs.Network.Twins

/-! What a broker notices of a run on one bus: what is done to it, what others write on its channel, and
the ends of the bus. A run is for this broker the same as one in which nothing else happens, with the
broker alone on the bus; so nothing else can affect it. -/

namespace Fanout

namespace Network

variable {network alone : Network} {index capacity : Nat} {broker : Broker}

/-- The bus, the channel and the message of the write that an act makes, if it makes one. -/
def writing? (network : Network) : Act → Option (Nat × String × Bytes)
  | .on bus (.write channel message) => some (bus, channel, message)
  | .on _ (.publish index event) =>
    (network.brokers[index]?).bind fun broker =>
      (broker.written? event).map (broker.bus, broker.channel, ·)
  | _ => none

/-- What a broker notices of an act of others: what is written on its channel, and the ends of the
bus. -/
def hears? (network : Network) (channel : String) : Act → Option Act
  | .on bus .shutdown => if bus = 0 then some (.on 0 .shutdown) else none
  | act =>
    (network.writing? act).bind fun (bus, name, message) =>
      if bus = 0 ∧ name = channel then some (.on 0 (.write channel message)) else none

/-- The act that starts the broker of a number. -/
def starts? (network : Network) (index : Nat) : Act → Option Act
  | .on bus (.start config) =>
    if network.brokers.length = index then some (.on bus (.start config)) else none
  | _ => none

/-- What a broker notices of an act, as it would if it were alone on the bus. -/
def notices? (network : Network) (index : Nat) (act : Act) : Option Act :=
  if act.broker? = some index then some act.alone
  else
    match network.brokers[index]? with
    | none => network.starts? index act
    | some broker => network.hears? broker.channel act

/-- What a broker notices of a run. -/
def visible (index : Nat) (network : Network) : List Act → List Act
  | [] => []
  | act :: acts =>
    (network.notices? index act).toList ++ (network.act act).visible index acts

/-! ## Readers of other brokers -/

/-- What a reader sees behind an act of somebody else. -/
def sight (network : Network) (view : View) : Act → View
  | .on bus .shutdown => if bus = 0 then { view with isOpen := false } else view
  | act =>
    match network.writing? act with
    | some (bus, channel, message) => view.hears bus channel (some message)
    | none => view

/-- What a broker does with its stream is not seen on another one. -/
theorem view?_turned_other {fabric : Fabric} {stream : Stream} {view : View} (sane : fabric.Sane)
    (sees : fabric.view? stream = some view)
    (held : ∀ own, broker.inbound.stream? = some own → fabric.Held own)
    (different : broker.inbound.stream? ≠ some stream) :
    (broker.turned fabric).1.view? stream = some view := by
  cases reads : broker.inbound.stream? with
  | none =>
    rw [Broker.turned_idle reads]
    exact sees
  | some own =>
    have other : stream ≠ own := fun same => different (same ▸ reads)
    have still := Fabric.view?_next_other sane sees (held own reads) other
    rw [Broker.turned_stream reads]
    cases (fabric.next own).value.2 with
    | pending | item _ => exact still
    | ended => exact Fabric.view?_drop_other still other

theorem view?_shut_other {fabric : Fabric} {stream : Stream} {view : View}
    (sees : fabric.view? stream = some view)
    (different : broker.inbound.stream? ≠ some stream) :
    (broker.shut fabric).1.view? stream = some view := by
  unfold Broker.shut
  cases reads : broker.inbound.stream? with
  | none => exact sees
  | some own => exact Fabric.view?_drop_other sees fun same => different (same ▸ reads)

theorem sight_of_absent {act : Act} (names : act.broker? = some index)
    (absent : network.brokers[index]? = none) (view : View) : network.sight view act = view := by
  cases act with
  | closing j | stop bus => rfl
  | on bus step =>
    cases step with
    | start | write | shutdown => contradiction
    | turn | close | subscribe | unsubscribe | dropHandle | dropReceiver | receive => rfl
    | publish j event =>
      cases names
      simp only [sight, writing?, absent, Option.bind_none]

theorem sight_publish (here : network.brokers[index]? = some broker) (bus : Nat)
    (event : Event Payload) (view : View) : network.sight view (.on bus (.publish index event))
      = view.hears broker.bus broker.channel (broker.written? event) := by
  simp only [sight, writing?, here, Option.bind_some]
  cases broker.written? event <;> rfl

/-- What is done to one broker is seen by the readers of others if it is a publish, and not at all
otherwise. -/
theorem view?_perform_other (single : network.fabric.Single capacity) (tidy : network.Tidy)
    {stream : Stream} {view : View} (sees : network.fabric.view? stream = some view) {act : Act}
    (names : act.broker? = some index) (here : network.brokers[index]? = some broker)
    (different : broker.inbound.stream? ≠ some stream) :
    (broker.perform network.fabric act).1.view? stream = some (network.sight view act) := by
  cases act with
  | closing j | stop bus => exact sees
  | on bus step =>
    cases step with
    | start | write | shutdown => contradiction
    | subscribe | unsubscribe | dropHandle | dropReceiver | receive => exact sees
    | publish j event =>
      cases names
      rw [sight_publish here]
      exact Broker.view?_published single tidy.sane sees broker event
    | turn j => exact view?_turned_other tidy.sane sees (tidy.held here) different
    | close j => exact view?_shut_other sees different

/-- What the reader of one broker sees of the acts of all others. -/
theorem view?_act (single : network.fabric.Single capacity) (tidy : network.Tidy)
    {stream : Stream} {view : View} (sees : network.fabric.view? stream = some view) {act : Act}
    (apart : ∀ (j : Nat) (other : Broker), act.broker? = some j →
      network.brokers[j]? = some other → other.inbound.stream? ≠ some stream) :
    (network.act act).fabric.view? stream = some (network.sight view act) := by
  cases names : act.broker? with
  | none =>
    rcases of_names_none names with
      ⟨bus, config, rfl⟩ | ⟨bus, channel, message, rfl⟩ | ⟨bus, rfl⟩ | ⟨bus, rfl⟩
    · rw [act_start]
      exact Fabric.view?_subscribe_other sees bus config.channel
    · exact single.view?_write tidy.sane sees bus channel message
    · exact single.view?_shutdown sees bus
    · exact (Fabric.view?_of_hubs (network.fabric.hubs_stop bus) stream).trans sees
  | some j =>
    cases there : network.brokers[j]? with
    | none => rw [act_of_absent names there, sight_of_absent names there, sees]
    | some other =>
      rw [act_eq_put names there]
      exact view?_perform_other single tidy sees names there (apart j other names there)

/-! ## The same broker alone -/

/-- The broker is the same in a network where it is alone. -/
inductive Mirrors (index : Nat) (network alone : Network) : Prop where
  | absent : network.brokers[index]? = none → alone.brokers = [] → Mirrors index network alone
  | present {broker broker' : Broker} : network.brokers[index]? = some broker →
      alone.brokers = [broker'] → Broker.Twins network.fabric alone.fabric broker broker' →
      Mirrors index network alone

/-- What every network on one bus is like. -/
structure Orderly (capacity : Nat) (network : Network) : Prop where
  tidy : network.Tidy
  single : network.fabric.Single capacity

theorem single_perform {fabric : Fabric} (single : fabric.Single capacity) (broker : Broker)
    (act : Act) : (broker.perform fabric act).1.Single capacity := by
  cases act with
  | closing j | stop bus => exact single
  | on bus step =>
    cases step with
    | start | write | shutdown | subscribe | unsubscribe | dropHandle | dropReceiver | receive =>
      exact single
    | publish j event =>
      simp only [Broker.perform, Broker.published]
      split
      · exact single
      split
      · exact single
      · exact single.write broker.bus broker.channel _
    | turn j =>
      cases reads : broker.inbound.stream? with
      | none =>
        rw [Broker.perform, Broker.turned_idle reads]
        exact single
      | some stream =>
        rw [Broker.perform, Broker.turned_stream reads]
        cases (fabric.next stream).value.2 with
        | pending | item _ => exact single.next stream
        | ended => exact (single.next stream).drop stream
    | close j =>
      simp only [Broker.perform, Broker.shut]
      cases broker.inbound.stream? with
      | none => exact single
      | some stream => exact single.drop stream

theorem Orderly.act (orderly : network.Orderly capacity) (act : Act) :
    (network.act act).Orderly capacity := by
  have single := orderly.single
  refine ⟨orderly.tidy.act act, ?_⟩
  cases names : act.broker? with
  | none =>
    rcases of_names_none names with
      ⟨bus, config, rfl⟩ | ⟨bus, channel, message, rfl⟩ | ⟨bus, rfl⟩ | ⟨bus, rfl⟩
    · rw [act_start]
      exact single.opens bus config.channel
    · exact single.write bus channel message
    · exact single.shutdown bus
    · exact single.stop bus
  | some j =>
    cases there : network.brokers[j]? with
    | none =>
      rw [act_of_absent names there]
      exact single
    | some other =>
      rw [act_eq_put names there]
      exact single_perform single other act

theorem Orderly.acts (orderly : network.Orderly capacity) (acts : List Act) :
    (network.acts acts).Orderly capacity := by
  induction acts generalizing network with
  | nil => exact orderly
  | cons act acts ih => exact ih (orderly.act act)

theorem broker?_alone {act : Act} (names : act.broker? = some index) :
    act.alone.broker? = some 0 := by
  cases act with
  | stop bus => contradiction
  | closing j => rfl
  | on bus step =>
    cases step with
    | start | write | shutdown => contradiction
    | publish | turn | close | subscribe | unsubscribe | dropHandle | dropReceiver | receive => rfl

/-- What is done to the broker is done to it where it is alone. -/
theorem Mirrors.own (mirrors : Mirrors index network alone) (orderly : network.Orderly capacity)
    (orderly' : alone.Orderly capacity) {act : Act} (names : act.broker? = some index) :
    Mirrors index (network.act act) (alone.act act.alone) := by
  have names' := broker?_alone names
  cases mirrors with
  | absent here none =>
    rw [act_of_absent names here, act_of_absent names' (by rw [none]; rfl)]
    exact .absent here none
  | @present broker broker' here only twins =>
    have inside := (List.getElem?_eq_some_iff.mp here).1
    have here' : alone.brokers[0]? = some broker' := by
      rw [only]
      rfl
    rw [act_eq_put names here, act_eq_put names' here']
    refine .present (List.getElem?_set_self inside) ?_ (twins.perform orderly.single
      orderly'.single orderly.tidy.sane orderly'.tidy.sane names)
    simp only [put, only]
    rfl

/-- The broker is started where it is alone. -/
theorem Mirrors.start (orderly : network.Orderly capacity) (orderly' : alone.Orderly capacity)
    (none : alone.brokers = []) (bus : Nat) (config : BrokerConfig) :
    Mirrors network.brokers.length (network.act (.on bus (.start config)))
      (alone.act (.on bus (.start config))) := by
  rw [act_start, act_start, none]
  refine .present (List.getElem?_concat_length ..) rfl ?_
  by_cases first : bus = 0
  · subst first
    obtain ⟨stream, opened, sees⟩ := orderly.single.subscribe config.channel
    obtain ⟨stream', opened', sees'⟩ := orderly'.single.subscribe config.channel
    rw [opened, opened']
    refine ⟨rfl, fun own reads => ?_⟩
    cases reads
    exact ⟨stream', _, rfl, sees, sees', rfl⟩
  · obtain ⟨fault, refused⟩ := orderly.single.subscribe_elsewhere first config.channel
    obtain ⟨fault', refused'⟩ := orderly'.single.subscribe_elsewhere first config.channel
    rw [refused, refused']
    exact ⟨rfl, fun own reads => by contradiction⟩

theorem hears?_of_not_end {act : Act} (goesOn : ∀ bus, act ≠ .on bus .shutdown)
    (channel : String) : network.hears? channel act = (network.writing? act).bind
      fun (bus, name, message) =>
        if bus = 0 ∧ name = channel then some (.on 0 (.write channel message)) else none := by
  unfold hears?
  split
  · exact absurd rfl (goesOn _)
  · rfl

theorem sight_of_not_end {act : Act} (goesOn : ∀ bus, act ≠ .on bus .shutdown) (view : View) :
    network.sight view act = match network.writing? act with
      | some (bus, channel, message) => view.hears bus channel (some message)
      | none => view := by
  unfold sight
  split
  · exact absurd rfl (goesOn _)
  · rfl

theorem name_sight (network : Network) (view : View) (act : Act) :
    (network.sight view act).name = view.name := by
  unfold sight
  split
  · split <;> rfl
  · split
    · exact View.name_hears ..
    · rfl

theorem brokers_hears (alone network : Network) (channel : String) (act : Act) :
    (alone.acts (network.hears? channel act).toList).brokers = alone.brokers := by
  by_cases ends : ∃ bus, act = .on bus .shutdown
  · obtain ⟨bus, rfl⟩ := ends
    simp only [hears?]
    split <;> rfl
  · rw [hears?_of_not_end fun bus same => ends ⟨bus, same⟩]
    cases network.writing? act with
    | none => rfl
    | some written =>
      simp only [Option.bind_some]
      split <;> rfl

/-- What is heard of an act of others makes the same difference to a reader that is alone. -/
theorem view?_hears (orderly : alone.Orderly capacity) {stream : Stream} {view : View}
    (sees : alone.fabric.view? stream = some view) (network : Network) (act : Act) :
    (alone.acts (network.hears? view.name act).toList).fabric.view? stream
      = some (network.sight view act) := by
  by_cases ends : ∃ bus, act = .on bus .shutdown
  · obtain ⟨bus, rfl⟩ := ends
    simp only [hears?, sight]
    by_cases first : bus = 0
    · rw [if_pos first, if_pos first]
      exact orderly.single.view?_shutdown sees 0
    · rw [if_neg first, if_neg first]
      exact sees
  · have goesOn : ∀ bus, act ≠ .on bus .shutdown := fun bus same => ends ⟨bus, same⟩
    rw [hears?_of_not_end goesOn, sight_of_not_end goesOn]
    cases network.writing? act with
    | none => exact sees
    | some written =>
      obtain ⟨bus, name, message⟩ := written
      simp only [Option.bind_some, View.hears]
      by_cases first : bus = 0
      · by_cases same : name = view.name
        · rw [if_pos ⟨first, same⟩, if_pos first, same]
          exact orderly.single.view?_write orderly.tidy.sane sees 0 view.name message
        · rw [if_neg fun both => same both.2, if_pos first, View.write,
            if_neg fun both => same both.2.symm]
          exact sees
      · rw [if_neg fun both => first both.1, if_neg first]
        exact sees

/-- What others do leaves the broker alone, and its reader sees what it hears of that. -/
theorem Mirrors.others (orderly : network.Orderly capacity) (orderly' : alone.Orderly capacity)
    {broker broker' : Broker} (here : network.brokers[index]? = some broker)
    (only : alone.brokers = [broker'])
    (twins : Broker.Twins network.fabric alone.fabric broker broker') {act : Act}
    (other : act.broker? ≠ some index) :
    Mirrors index (network.act act) (alone.acts (network.hears? broker.channel act).toList) := by
  have there := broker_act act here
  rw [if_neg other] at there
  refine .present there ((brokers_hears ..).trans only) ⟨twins.plain, fun stream reads => ?_⟩
  obtain ⟨stream', view, reads', sees, sees', named⟩ := twins.view stream reads
  have apart (j : Nat) (other' : Broker) (names : act.broker? = some j)
      (there : network.brokers[j]? = some other') : other'.inbound.stream? ≠ some stream := by
    intro same
    have on : stream.hub? ≠ none := by
      obtain ⟨k, reader, rfl⟩ := orderly.single.eq_hub sees
      exact Option.some_ne_none 0
    have equal := orderly.tidy.alone j index other' broker stream there here same reads on
    exact other (names.trans (congrArg some equal))
  have after := view?_act orderly.single orderly.tidy sees apart
  have after' := view?_hears orderly' sees' network act
  rw [named] at after'
  exact ⟨stream', _, reads', after, after', (name_sight ..).trans named⟩

/-- An act is for one broker what it notices of it. -/
theorem Mirrors.act (mirrors : Mirrors index network alone) (orderly : network.Orderly capacity)
    (orderly' : alone.Orderly capacity) (act : Act) :
    Mirrors index (network.act act) (alone.acts (network.notices? index act).toList) := by
  unfold notices?
  by_cases names : act.broker? = some index
  · rw [if_pos names]
    exact mirrors.own orderly orderly' names
  · rw [if_neg names]
    cases mirrors with
    | present here only twins =>
      rw [here]
      exact .others orderly orderly' here only twins names
    | absent here none =>
      rw [here]
      by_cases starts : ∃ bus config, act = .on bus (.start config)
      · obtain ⟨bus, config, rfl⟩ := starts
        simp only [starts?]
        by_cases new : network.brokers.length = index
        · rw [if_pos new]
          exact new ▸ .start orderly orderly' none bus config
        · rw [if_neg new]
          refine .absent ?_ none
          have outside := List.getElem?_eq_none_iff.mp here
          rw [act_start]
          simp
          omega
      · have nothing : network.starts? index act = Option.none := by
          unfold starts?
          split
          · exact absurd ⟨_, _, rfl⟩ starts
          · rfl
        rw [nothing]
        refine .absent ?_ none
        cases there : (network.act act).brokers[index]? with
        | none => rfl
        | some broker =>
          rcases broker_before there with ⟨before, here'⟩ | ⟨bus, config, rfl, _⟩
          · rw [here] at here'
            contradiction
          · exact absurd ⟨bus, config, rfl⟩ starts

end Network

end Fanout
