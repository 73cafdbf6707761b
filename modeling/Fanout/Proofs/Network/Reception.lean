import Fanout.Proofs.Network.Writing

/-! What a step is for one client: its queue gains the message that its broker broadcasts, or has no
room for it, or the message is not for the client. -/

namespace Fanout

open Network Broker

namespace Client

/-- What a broadcast is for a client, which may not be there. -/
inductive Meets (capacity : Nat) : (heard : Option Envelope) → (client? : Option Client) →
    (offering : List (Option Message)) → Prop where
  | takes {envelope client} : client.Takes capacity envelope.scope →
      Meets capacity (some envelope) (some client) [some envelope.data]
  | refuses {envelope client} : client.Refuses capacity envelope.scope →
      Meets capacity (some envelope) (some client) [none]
  | passes {heard client?} : (∀ envelope client, heard = some envelope → client? = some client →
      ¬ client.Takes capacity envelope.scope ∧ ¬ client.Refuses capacity envelope.scope) →
      Meets capacity heard client? []

theorem Meets.within {capacity n : Nat} {heard : Option Envelope} {client? : Option Client}
    {offering : List (Option Message)} (meets : Meets capacity heard client? offering) :
    (offering.map fun _ => n).Sublist (heard.toList.map fun _ => n) := by
  cases meets with
  | takes | refuses => exact .refl _
  | passes => exact List.nil_sublist _

theorem Meets.takes_of_mem {capacity : Nat} {heard : Option Envelope} {client? : Option Client}
    {offering : List (Option Message)} {message : Message}
    (meets : Meets capacity heard client? offering) (member : some message ∈ offering) :
    ∃ envelope client, heard = some envelope ∧ client? = some client ∧
      client.Takes capacity envelope.scope ∧ envelope.data = message := by
  cases meets with
  | @takes envelope client takes =>
    cases List.mem_singleton.mp member
    exact ⟨envelope, client, rfl, rfl, takes, rfl⟩
  | refuses => simp at member
  | passes => contradiction

theorem Meets.nil_of_none {capacity : Nat} {heard : Option Envelope} {client? : Option Client}
    {offering : List (Option Message)} (meets : Meets capacity heard client? offering)
    (none : client? = none) : offering = [] := by
  cases meets with
  | takes | refuses => contradiction
  | passes => rfl

/-- The client is the same one, and no longer what it has ceased to be. -/
structure Lasts (client after : Client) : Prop where
  filter : after.filter = client.filter
  registered : after.registered = true → client.registered = true
  receiving : after.receiving = true → client.receiving = true

variable {client after : Client} {capacity : Nat} {message : Message} {scope : String}

theorem Lasts.accepts {client after : Client} (lasts : client.Lasts after) (scope : String) :
    after.accepts scope = client.accepts scope := by
  rw [Client.accepts, lasts.filter, Client.accepts]

theorem Lasts.refl (client : Client) : client.Lasts client := ⟨rfl, fun h => h, fun h => h⟩

theorem Lasts.trans {last : Client} (first : client.Lasts after) (second : after.Lasts last) :
    client.Lasts last := by
  constructor
  case filter => exact second.filter.trans first.filter
  case registered => exact fun still => first.registered (second.registered still)
  case receiving => exact fun still => first.receiving (second.receiving still)

theorem Wanes.lasts (wanes : client.Wanes after) : client.Lasts after :=
  ⟨wanes.filter, wanes.registered, wanes.receiving⟩

theorem lasts_hear (capacity : Nat) (message : Message) (scope : String) (client : Client) :
    client.Lasts (client.hear capacity message scope) := by
  by_cases takes : client.Takes capacity scope
  · rw [hear_of_takes takes]
    exact ⟨rfl, fun h => h, fun h => h⟩
  · rw [hear_of_not_takes takes]
    exact .refl client

theorem Takes.not_refuses (takes : client.Takes capacity scope) :
    ¬ client.Refuses capacity scope :=
  fun refuses => Nat.not_le_of_lt takes.2.2.2 refuses.2.2.2

/-- A client that a message is for takes it or refuses it. -/
theorem takes_or_refuses (registered : client.registered = true)
    (accepts : client.accepts scope = true) (receiving : client.receiving = true) :
    client.Takes capacity scope ∨ client.Refuses capacity scope := by
  rcases Nat.lt_or_ge client.queue.length capacity with room | full
  · exact .inl ⟨registered, accepts, receiving, room⟩
  · exact .inr ⟨registered, accepts, receiving, full⟩

end Client

variable {broker broker' : Broker} {heard : Option Envelope}

/-- Clients stay where they are. -/
theorem Broker.Tells.client (tells : broker.Tells heard broker') {serial : Nat} {client : Client}
    (found : broker.registry.clients[serial]? = some client) :
    ∃ after, broker'.registry.clients[serial]? = some after ∧ client.Lasts after := by
  cases heard with
  | some envelope =>
    refine ⟨_, ?_, client.lasts_hear broker.registry.capacity envelope.data envelope.scope⟩
    rw [Registry.Hears.clients tells, List.getElem?_map, found, Option.map_some]
  | none =>
    have settles : broker.registry.Settles broker'.registry := tells
    obtain ⟨after, there⟩ := exists_getElem? settles.length found
    refine ⟨after, there, ?_⟩
    rcases settles.client serial after there with ⟨c, before, wanes⟩ | ⟨absent, _⟩
    · cases found.symm.trans before
      exact wanes.lasts
    · rw [found] at absent
      contradiction

namespace Chronicle

variable {chronicle : Chronicle} {hub after : Hub} {brokers brokers' : List Broker} {step : Step}
  {index serial : Nat}

theorem client?_of_onHub {network : Network} (same : network = .onHub hub brokers)
    (here : brokers[index]? = some broker) (serial : Nat) :
    network.client? ⟨index, serial⟩ = broker.registry.clients[serial]? := by
  rw [same, client?, onHub_brokers, here, Option.bind_some]

theorem advance_network (chronicle : Chronicle) (step : Step) :
    (chronicle.advance step).network = chronicle.network.step step := rfl

/-- What becomes of the queue of one client, and whether it has room. -/
theorem Passes.meets (passes : chronicle.Passes step hub after index broker broker')
    (sound : chronicle.Sound hub brokers) (sound' : (chronicle.advance step).Sound after brokers')
    (here : brokers[index]? = some broker) (here' : brokers'[index]? = some broker')
    (serial : Nat) :
    Client.Meets broker.registry.capacity (chronicle.network.broadcast? index step)
        broker.registry.clients[serial]? (chronicle.offering step ⟨index, serial⟩) ∧
      ((chronicle.network.step step).queue ⟨index, serial⟩
          = chronicle.network.queue ⟨index, serial⟩ ++ chronicle.gained step ⟨index, serial⟩ ∨
        (chronicle.network.step step).queue ⟨index, serial⟩
          <:+ chronicle.network.queue ⟨index, serial⟩) := by
  have tells := passes.tells
  have client := client?_of_onHub sound.network here serial
  have client' := client?_of_onHub sound'.network here' serial
  have brokerHere : chronicle.network.brokers[index]? = some broker := by
    rw [sound.network, onHub_brokers, here]
  simp only [advance] at client'
  simp only [offering, gained, refuses, queue, client, client', brokerHere]
  generalize chronicle.network.broadcast? index step = heard at tells
  cases heard with
  | none =>
    have settles : broker.registry.Settles broker'.registry := tells
    have suffix : ((broker'.registry.clients[serial]?).map (·.queue)).getD []
        <:+ ((broker.registry.clients[serial]?).map (·.queue)).getD [] := by
      cases there : broker'.registry.clients[serial]? with
      | none => exact List.nil_suffix
      | some d =>
        rcases settles.client serial d there with ⟨c, before, wanes⟩ | ⟨_, empty⟩
        · rw [before]
          exact wanes.queue
        · simp [empty]
    rw [List.drop_eq_nil_of_le suffix.length_le]
    exact ⟨.passes (by simp), .inr suffix⟩
  | some envelope =>
    have hears : broker.registry.Hears envelope.data envelope.scope broker'.registry := tells
    rw [hears.clients, List.getElem?_map]
    cases found : broker.registry.clients[serial]? with
    | none => exact ⟨.passes (by simp), .inl rfl⟩
    | some c =>
      simp only [Option.map_some, Option.getD_some, decide_eq_true_eq]
      by_cases takes : c.Takes broker.registry.capacity envelope.scope
      · rw [Client.hear_of_takes takes, List.drop_left, if_neg takes.not_refuses, List.append_nil]
        exact ⟨.takes takes, .inl rfl⟩
      · rw [Client.hear_of_not_takes takes, List.drop_length, List.map_nil, List.nil_append]
        refine ⟨?_, .inr (List.suffix_refl _)⟩
        by_cases refuses : c.Refuses broker.registry.capacity envelope.scope
        · rw [if_pos refuses]
          exact .refuses refuses
        · rw [if_neg refuses]
          refine .passes fun e d same same' => ?_
          cases same
          cases same'
          exact ⟨takes, refuses⟩

/-- What a step is for a client, or for a place where there is none before and after it. -/
theorem Sound.reception (sound : chronicle.Sound hub brokers)
    (advances : chronicle.Advances hub brokers step) (id : ClientId) :
    (∃ after broker broker', chronicle.network.brokers[id.registry]? = some broker ∧
      (chronicle.advance step).network.brokers[id.registry]? = some broker' ∧
      chronicle.Passes step hub after id.registry broker broker' ∧
      Client.Meets broker.registry.capacity (chronicle.network.broadcast? id.registry step)
        broker.registry.clients[id.serial]? (chronicle.offering step id)) ∨
    (chronicle.network.client? id = none ∧ (chronicle.advance step).network.client? id = none ∧
      chronicle.offering step id = [] ∧ (chronicle.advance step).pending id.registry = []) := by
  obtain ⟨after, brokers', sound', length, each⟩ := advances
  have nobody (absent : brokers[id.registry]? = none)
      (absent' : (chronicle.advance step).network.client? id = none)
      (pending : (chronicle.advance step).pending id.registry = []) :
      chronicle.network.client? id = none ∧ (chronicle.advance step).network.client? id = none ∧
        chronicle.offering step id = [] ∧ (chronicle.advance step).pending id.registry = [] := by
    have before : chronicle.network.brokers[id.registry]? = none := by
      rw [sound.network, onHub_brokers, absent]
    have queue : (chronicle.network.step step).queue id = [] := by
      rw [Network.queue, ← advance_network, absent']
      rfl
    refine ⟨by rw [client?, before, Option.bind_none], absent', ?_, pending⟩
    simp [offering, gained, refuses, before, queue]
  cases here' : brokers'[id.registry]? with
  | none =>
    have gone : (chronicle.advance step).network.brokers[id.registry]? = none := by
      rw [sound'.network, onHub_brokers, here']
    refine .inr (nobody ?_ ?_ ?_)
    · rw [List.getElem?_eq_none_iff] at here' ⊢
      exact Nat.le_trans length here'
    · rw [client?, gone, Option.bind_none]
    · rw [pending, gone]
      rfl
  | some broker' =>
    rcases each id.registry broker' here' with ⟨broker, here, passes⟩ | ⟨absent, new, _, _, pending⟩
    · refine .inl ⟨after, broker, broker', ?_, ?_, passes,
        (passes.meets sound sound' here here' id.serial).1⟩
      · rw [sound.network, onHub_brokers, here]
      · rw [sound'.network, onHub_brokers, here']
    · refine .inr (nobody absent ?_ pending)
      rw [client?_of_onHub sound'.network here', new, List.getElem?_nil]

/-- What a step is for a client that is there. -/
theorem Sound.client (sound : chronicle.Sound hub brokers)
    (advances : chronicle.Advances hub brokers step) {id : ClientId} {client : Client}
    (here : chronicle.network.brokers[id.registry]? = some broker)
    (found : broker.registry.clients[id.serial]? = some client) :
    ∃ after broker' client', (chronicle.advance step).network.brokers[id.registry]? = some broker' ∧
      broker'.registry.clients[id.serial]? = some client' ∧ client.Lasts client' ∧
      chronicle.Passes step hub after id.registry broker broker' ∧
      Client.Meets broker.registry.capacity (chronicle.network.broadcast? id.registry step)
        (some client) (chronicle.offering step id) := by
  rcases sound.reception advances id with
    ⟨after, other, broker', same, here', passes, meets⟩ | ⟨absent, _⟩
  · cases here.symm.trans same
    obtain ⟨client', found', lasts⟩ := passes.tells.client found
    rw [found] at meets
    exact ⟨after, broker', client', here', found', lasts, passes, meets⟩
  · rw [client?, here, Option.bind_some, found] at absent
    contradiction

/-- What holds of a client and of its broker after some steps, and is kept by every step, holds
after all further steps. -/
theorem client_induction {motive : List Step → Broker → Client → Prop} {capacity : Nat}
    {before : List Step} {id : ClientId} {first : Broker} {joined : Client}
    (here : (run capacity before).network.brokers[id.registry]? = some first)
    (found : first.registry.clients[id.serial]? = some joined) (base : motive before first joined)
    (next : ∀ (steps : List Step) (step : Step) (hub after : Hub) (b b' : Broker) (c c' : Client),
      (run capacity steps).Passes step hub after id.registry b b' →
      Client.Meets b.registry.capacity ((run capacity steps).network.broadcast? id.registry step)
        (some c) ((run capacity steps).offering step id) →
      c.Lasts c' → motive steps b c → motive (steps ++ [step]) b' c') (after : List Step) :
    ∃ b c, (run capacity (before ++ after)).network.brokers[id.registry]? = some b ∧
      b.registry.clients[id.serial]? = some c ∧ motive (before ++ after) b c := by
  induction after using List.reverseRecOn with
  | nil =>
    rw [List.append_nil]
    exact ⟨first, joined, here, found, base⟩
  | append_singleton after step earlier =>
    obtain ⟨b, c, there, found', holds⟩ := earlier
    obtain ⟨hub, brokers, sound⟩ := sound_run capacity (before ++ after)
    obtain ⟨hub', b', c', here', found'', lasts, passes, meets⟩ :=
      sound.client (sound.advance step) there found'
    rw [← List.append_assoc]
    refine ⟨b', c', ?_, found'', next _ step hub hub' b b' c c' passes meets lasts holds⟩
    rw [run_concat, here']

/-- What is recorded as gained is what queues gain: else a queue has lost messages at most. -/
theorem Sound.queue_step (sound : chronicle.Sound hub brokers) (step : Step) (id : ClientId) :
    (chronicle.network.step step).queue id
        = chronicle.network.queue id ++ chronicle.gained step id ∨
      (chronicle.network.step step).queue id <:+ chronicle.network.queue id := by
  obtain ⟨after, brokers', sound', _, each⟩ := sound.advance step
  have network : chronicle.network.step step = .onHub after brokers' := sound'.network
  cases here' : brokers'[id.registry]? with
  | none =>
    refine .inr ?_
    simp [Network.queue, network, client?, here']
  | some broker' =>
    rcases each id.registry broker' here' with ⟨broker, here, passes⟩ | ⟨_, new, _⟩
    · exact (passes.meets sound sound' here here' id.serial).2
    · refine .inr ?_
      simp [Network.queue, network, client?, here', new]

end Chronicle

end Fanout
