import Fanout.Proofs.Network.Act

/-! Networks on any buses, act by act. An act that names a broker depends on this broker and the
buses alone, and changes nothing else. -/

namespace Fanout

namespace Network

def act (network : Network) : Act → Network
  | .on bus (.start config) => (network.start bus config).value.1
  | .on bus (.write channel message) =>
    { network with fabric := (network.fabric.write bus channel message).value.1 }
  | .on bus .shutdown => { network with fabric := network.fabric.shutdown bus }
  | .stop bus => { network with fabric := network.fabric.stop bus }
  | .on _ step => network.step step
  | .closing index =>
    match network.brokers[index]? with
    | none => network
    | some broker => network.setBroker index { broker with closed := true }

/-- On the first bus an act is a step. -/
theorem act_on_zero (network : Network) (step : Step) :
    network.act (.on 0 step) = network.step step := by
  cases step <;> rfl

variable {network : Network} {index : Nat} {broker : Broker}

/-- The buses and one broker are replaced. -/
def put (network : Network) (index : Nat) (left : Fabric × Broker) : Network :=
  ⟨left.1, network.brokers.set index left.2⟩

theorem put_same (here : network.brokers[index]? = some broker) :
    network.put index (network.fabric, broker) = network := by
  obtain ⟨inside, rfl⟩ := List.getElem?_eq_some_iff.mp here
  rw [put, List.set_getElem_self]

theorem step_publish (here : network.brokers[index]? = some broker) (event : Event Payload) :
    network.step (.publish index event)
      = network.put index (broker.published network.fabric event) := by
  cases closed : broker.closed with
  | true =>
    rw [Broker.published_closed closed, put_same here]
    simp [step, publish, here, closed]
  | false =>
    cases sealed : Envelope.sealEvent event with
    | error fault =>
      rw [Broker.published_error closed sealed]
      simp only [step, publish, here, closed, sealed]
      rfl
    | ok envelope =>
      rw [publish_sealed network here closed sealed, Broker.published_sealed closed sealed,
        Broker.writes]
      generalize (network.fabric.write broker.bus broker.channel envelope.encode).value = written
      obtain ⟨fabric, outcome⟩ := written
      cases outcome with
      | error fault => rfl
      | ok =>
        cases broker.listening with
        | true => exact congrArg (Network.mk fabric) (congrArg Network.brokers (put_same here)).symm
        | false => rfl

theorem step_turn_put (here : network.brokers[index]? = some broker) :
    network.step (.turn index) = network.put index (broker.turned network.fabric) := by
  cases stream : broker.inbound.stream? with
  | none =>
    rw [Broker.turned_idle stream, put_same here]
    simp only [step, turn, here, stream, Logged.value_pure]
  | some found =>
    rw [Broker.turned_stream stream]
    simp only [step, turn, here, stream]
    generalize network.fabric.next found = logged
    obtain ⟨⟨fabric, next⟩, notices⟩ := logged
    cases broker.inbound <;> cases next <;> rfl

theorem step_close_put (here : network.brokers[index]? = some broker) :
    network.step (.close index) = network.put index (broker.shut network.fabric) := by
  have inside := (List.getElem?_eq_some_iff.mp here).1
  cases inbound : broker.inbound with
  | absent | ended =>
    simp only [step, close, here, Logged.value_bind, cancel, inbound, Inbound.stream?,
      Logged.value_pure, setBroker, List.getElem?_set_self inside, List.set_set, Broker.shut]
    rfl
  | waiting stream | running stream =>
    simp only [step, close, here, Logged.value_bind, cancel, inbound, Inbound.stream?,
      Logged.value_pure, setBroker, List.getElem?_set_self inside, List.set_set, Broker.shut]
    rfl

theorem onRegistry_put (here : network.brokers[index]? = some broker) (f : Registry → Registry) :
    network.onRegistry index f
      = network.put index (network.fabric, { broker with registry := f broker.registry }) := by
  rw [onRegistry, here]
  rfl

/-- An act that names a broker is what it is for this broker and the buses. -/
theorem act_eq_put {act : Act} (names : act.broker? = some index)
    (here : network.brokers[index]? = some broker) :
    network.act act = network.put index (broker.perform network.fabric act) := by
  cases act with
  | stop bus => contradiction
  | closing j =>
    cases names
    rw [Network.act, here]
    rfl
  | on bus step =>
    cases step with
    | start config | write channel message | shutdown => contradiction
    | publish j event =>
      cases names
      exact step_publish here event
    | turn j =>
      cases names
      exact step_turn_put here
    | close j =>
      cases names
      exact step_close_put here
    | subscribe j filter =>
      cases names
      simp only [Network.act, step, subscribe, here, Broker.perform]
      cases broker.subscribe filter with
      | none => exact (put_same here).symm
      | some joined => rfl
    | unsubscribe id =>
      cases names
      simp only [Network.act, step, onRegistry_put here, Registry.unsubscribe_value]
      rfl
    | dropHandle id =>
      cases names
      simp only [Network.act, step, onRegistry_put here, Registry.dropHandle_value]
      rfl
    | dropReceiver id =>
      cases names
      simp only [Network.act, step, onRegistry_put here]
      rfl
    | receive id =>
      cases names
      simp only [Network.act, step, onRegistry_put here, Registry.receive_fst]
      rfl

theorem act_of_absent {act : Act} (names : act.broker? = some index)
    (absent : network.brokers[index]? = none) : network.act act = network := by
  cases act with
  | stop bus => contradiction
  | closing j =>
    cases names
    rw [Network.act, absent]
  | on bus step =>
    cases step with
    | start config | write channel message | shutdown => contradiction
    | publish j event | turn j | close j =>
      cases names
      simp [Network.act, step, publish, turn, close, absent]
    | subscribe j filter =>
      cases names
      simp [Network.act, step, subscribe, absent]
    | unsubscribe id | dropHandle id | dropReceiver id | receive id =>
      cases names
      simp only [Network.act, step, onRegistry, absent]

theorem act_start (network : Network) (bus : Nat) (config : BrokerConfig) :
    network.act (.on bus (.start config))
      = ⟨(network.fabric.subscribe bus config.channel).value.1, network.brokers
        ++ [.fresh bus network.brokers.length config
          (network.fabric.subscribe bus config.channel).value.2]⟩ := by
  simp only [act, start, Logged.value_bind]
  generalize (network.fabric.subscribe bus config.channel).value = opened
  obtain ⟨fabric, opened⟩ := opened
  cases opened <;> rfl

/-! ## All brokers -/

/-- An act that names no broker concerns the buses alone, or adds a broker. -/
theorem of_names_none {act : Act} (nobody : act.broker? = none) :
    (∃ bus config, act = .on bus (.start config)) ∨
      (∃ bus channel message, act = .on bus (.write channel message)) ∨
      (∃ bus, act = .on bus .shutdown) ∨ ∃ bus, act = .stop bus := by
  cases act with
  | closing j => contradiction
  | stop bus => exact .inr (.inr (.inr ⟨bus, rfl⟩))
  | on bus step =>
    cases step with
    | start config => exact .inl ⟨bus, config, rfl⟩
    | write channel message => exact .inr (.inl ⟨bus, channel, message, rfl⟩)
    | shutdown => exact .inr (.inr (.inl ⟨bus, rfl⟩))
    | publish | turn | subscribe | close | unsubscribe | dropHandle | dropReceiver | receive =>
      contradiction

/-- A broker that is there is changed by what names it alone. -/
theorem broker_act (act : Act) (here : network.brokers[index]? = some broker) :
    (network.act act).brokers[index]? = some (if act.broker? = some index
      then (broker.perform network.fabric act).2 else broker) := by
  cases names : act.broker? with
  | none =>
    rw [if_neg (by simp)]
    rcases of_names_none names with
      ⟨bus, config, rfl⟩ | ⟨bus, channel, message, rfl⟩ | ⟨bus, rfl⟩ | ⟨bus, rfl⟩
    · have inside := (List.getElem?_eq_some_iff.mp here).1
      rw [act_start, List.getElem?_append_left inside, here]
    all_goals exact here
  | some j =>
    simp only [Option.some.injEq]
    cases there : network.brokers[j]? with
    | none =>
      have different : j ≠ index := by
        rintro rfl
        rw [here] at there
        contradiction
      rw [act_of_absent names there, if_neg different, here]
    | some other =>
      rw [act_eq_put names there, put]
      by_cases same : j = index
      · subst same
        cases here.symm.trans there
        rw [if_pos rfl, List.getElem?_set_self (List.getElem?_eq_some_iff.mp here).1]
      · rw [if_neg same, List.getElem?_set_ne same, here]

/-- A broker is there before an act, or the act has started it. -/
theorem broker_before {act : Act} (there : (network.act act).brokers[index]? = some broker) :
    (∃ before, network.brokers[index]? = some before) ∨
      ∃ bus config, act = .on bus (.start config) ∧ index = network.brokers.length ∧
        broker = .fresh bus index config (network.fabric.subscribe bus config.channel).value.2 := by
  cases names : act.broker? with
  | none =>
    rcases of_names_none names with
      ⟨bus, config, rfl⟩ | ⟨bus, channel, message, rfl⟩ | ⟨bus, rfl⟩ | ⟨bus, rfl⟩
    · rw [act_start] at there
      rcases getElem?_snoc_cases there with before | ⟨atEnd, rfl⟩
      · exact .inl ⟨broker, before⟩
      · exact .inr ⟨bus, config, rfl, atEnd, by rw [atEnd]⟩
    all_goals exact .inl ⟨broker, there⟩
  | some j =>
    left
    cases found : network.brokers[j]? with
    | none =>
      rw [act_of_absent names found] at there
      exact ⟨broker, there⟩
    | some other =>
      rw [act_eq_put names found, put] at there
      rcases getElem?_set_cases there with ⟨rfl, _⟩ | ⟨_, before⟩
      · exact ⟨other, found⟩
      · exact ⟨broker, before⟩

/-- There is a broker more where one is started, and else as many as before. -/
theorem length_act {act : Act} (others : ∀ bus config, act ≠ .on bus (.start config)) :
    (network.act act).brokers.length = network.brokers.length := by
  cases names : act.broker? with
  | none =>
    rcases of_names_none names with
      ⟨bus, config, rfl⟩ | ⟨bus, channel, message, rfl⟩ | ⟨bus, rfl⟩ | ⟨bus, rfl⟩
    · exact absurd rfl (others bus config)
    all_goals rfl
  | some j =>
    cases there : network.brokers[j]? with
    | none => rw [act_of_absent names there]
    | some other => rw [act_eq_put names there, put, List.length_set]

/-- What is behind a bus remains the same. -/
theorem alike_act (network : Network) (act : Act) :
    network.fabric.Alike (network.act act).fabric := by
  cases names : act.broker? with
  | none =>
    rcases of_names_none names with
      ⟨bus, config, rfl⟩ | ⟨bus, channel, message, rfl⟩ | ⟨bus, rfl⟩ | ⟨bus, rfl⟩
    · rw [act_start]
      exact network.fabric.alike_subscribe bus config.channel
    · exact network.fabric.alike_write bus channel message
    · exact network.fabric.alike_shutdown bus
    · exact Fabric.alike_of_buses (network.fabric.buses_stop bus)
  | some j =>
    cases there : network.brokers[j]? with
    | none =>
      rw [act_of_absent names there]
      exact .refl network.fabric
    | some other =>
      rw [act_eq_put names there]
      exact other.alike_perform network.fabric act

/-! ## Runs -/

def acts (network : Network) (acts : List Act) : Network := acts.foldl act network

/-- What is counted in each act of a run, in all. -/
def sum (count : Network → Act → Nat) (network : Network) : List Act → Nat
  | [] => 0
  | act :: acts => count network act + (network.act act).sum count acts

theorem acts_append (network : Network) (before later : List Act) :
    network.acts (before ++ later) = (network.acts before).acts later :=
  List.foldl_append

theorem acts_concat (network : Network) (acts : List Act) (act : Act) :
    network.acts (acts ++ [act]) = (network.acts acts).act act :=
  network.acts_append acts [act]

theorem sum_concat (count : Network → Act → Nat) (network : Network) (acts : List Act)
    (act : Act) : network.sum count (acts ++ [act])
      = network.sum count acts + count (network.acts acts) act := by
  induction acts generalizing network with
  | nil => simp [sum, Network.acts]
  | cons first acts counted =>
    rw [List.cons_append, sum, counted, sum, Nat.add_assoc]
    rfl

/-- A broker stays where it is, and what each act on a broker preserves is preserved in a run. -/
theorem broker_induction {motive : Broker → Prop} (here : network.brokers[index]? = some broker)
    (first : motive broker)
    (step : ∀ fabric broker act, motive broker → motive (broker.perform fabric act).2)
    (acts : List Act) :
    ∃ after, (network.acts acts).brokers[index]? = some after ∧ motive after := by
  induction acts generalizing network broker with
  | nil => exact ⟨broker, here, first⟩
  | cons act acts rest =>
    refine rest (broker_act act here) ?_
    split
    · exact step network.fabric broker act first
    · exact first

/-- A broker that is there at the end of a run was there from the beginning on or was started in
some act. -/
theorem exists_start {network : Network} {acts : List Act} {index : Nat} {broker : Broker}
    (here : (network.acts acts).brokers[index]? = some broker) :
    (∃ first, network.brokers[index]? = some first) ∨
      ∃ before bus config later, acts = before ++ .on bus (.start config) :: later ∧
        (network.acts before).brokers.length = index := by
  induction acts generalizing network with
  | nil => exact .inl ⟨broker, here⟩
  | cons act acts rest =>
    rcases rest here with ⟨first, there⟩ | ⟨before, bus, config, later, rfl, length⟩
    · rcases broker_before there with before | ⟨bus, config, rfl, same, _⟩
      · exact .inl before
      · exact .inr ⟨[], bus, config, acts, rfl, same.symm⟩
    · exact .inr ⟨act :: before, bus, config, later, rfl, length⟩

end Network

end Fanout
