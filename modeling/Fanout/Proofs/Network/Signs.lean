import Fanout.Proofs.Network.Isolation

/-! What brokers can notice of each other is decided by little: on which bus and which channel each
of them is, and whether it is closed. What leaves this as it is, and is not noticed itself, may as
well be left out of a run. -/

namespace Fanout

/-- What others depend on when a broker writes. -/
structure Sign where
  bus : Nat
  channel : String
  closed : Bool
  deriving DecidableEq, Repr

/-- Whether a broker that is named by an act is closed behind it in any case. -/
def Act.shuts : Act → Bool
  | .closing _ | .on _ (.close _) => true
  | _ => false

namespace Broker

variable {fabric : Fabric} {broker : Broker}

def sign (broker : Broker) : Sign := ⟨broker.bus, broker.channel, broker.closed⟩

theorem closed_published (fabric : Fabric) (broker : Broker) (event : Event Payload) :
    (broker.published fabric event).2.closed = broker.closed := by
  unfold published
  split
  · rfl
  split
  · rfl
  split
  · split <;> rfl
  · rfl

theorem closed_turned (fabric : Fabric) (broker : Broker) :
    (broker.turned fabric).2.closed = broker.closed := by
  cases reads : broker.inbound.stream? with
  | none => rw [turned_idle reads]
  | some stream =>
    rw [turned_stream reads]
    cases (fabric.next stream).value.2 with
    | pending | ended => rfl
    | item item =>
      obtain ⟨stays, _⟩ := take_spec { broker with inbound := .running stream } item
      exact stays.closed

theorem closed_perform (fabric : Fabric) (broker : Broker) (act : Act) :
    (broker.perform fabric act).2.closed = (broker.closed || act.shuts) := by
  cases act with
  | closing j => exact (Bool.or_true _).symm
  | stop bus => exact (Bool.or_false _).symm
  | on bus step =>
    cases step with
    | publish j event => exact (closed_published fabric broker event).trans (Bool.or_false _).symm
    | turn j => exact (closed_turned fabric broker).trans (Bool.or_false _).symm
    | close j =>
      rw [Act.shuts, Bool.or_true, perform, shut]
      cases broker.inbound.stream? <;> rfl
    | subscribe j filter =>
      rw [perform_subscribe]
      exact (Bool.or_false _).symm
    | start | write | shutdown | unsubscribe | dropHandle | dropReceiver | receive =>
      exact (Bool.or_false _).symm

/-- An act on the broker may close it, and changes nothing else that others depend on. -/
theorem sign_perform (fabric : Fabric) (broker : Broker) (act : Act) :
    (broker.perform fabric act).2.sign
      = { broker.sign with closed := broker.sign.closed || act.shuts } := by
  have remains := broker.remains_perform fabric act
  rw [sign, remains.bus, remains.channel, closed_perform, sign]

end Broker

namespace Network

variable {network other : Network} {index : Nat}

def signs (network : Network) : List Sign := network.brokers.map (·.sign)

/-- What an act makes of the signs of all brokers. -/
def signsAfter (signs : List Sign) (act : Act) : List Sign :=
  match act.broker?, act with
  | some index, act => signs.modify index fun s => { s with closed := s.closed || act.shuts }
  | none, .on bus (.start config) => signs ++ [⟨bus, config.channel, false⟩]
  | none, _ => signs

theorem signs_act (network : Network) (act : Act) :
    (network.act act).signs = signsAfter network.signs act := by
  cases names : act.broker? with
  | none =>
    rcases of_names_none names with
      ⟨bus, config, rfl⟩ | ⟨bus, channel, message, rfl⟩ | ⟨bus, rfl⟩ | ⟨bus, rfl⟩
    · rw [act_start, signs, List.map_append, ← signs, List.map_singleton, Broker.sign]
      cases (network.fabric.subscribe bus config.channel).value.2 <;> rfl
    all_goals rfl
  | some j =>
    simp only [signsAfter, names]
    cases there : network.brokers[j]? with
    | none =>
      have outside : network.signs.length ≤ j := by
        rw [signs, List.length_map]
        exact List.getElem?_eq_none_iff.mp there
      rw [act_of_absent names there, List.modify_eq_self outside]
    | some broker =>
      have here : network.signs[j]? = some broker.sign := by
        rw [signs, List.getElem?_map, there, Option.map_some]
      rw [act_eq_put names there, modify_of_some here, ← Broker.sign_perform network.fabric, signs,
        put, List.map_set, ← signs]

theorem signs_acts (same : network.signs = other.signs) (acts : List Act) :
    (network.acts acts).signs = (other.acts acts).signs := by
  induction acts generalizing network other with
  | nil => exact same
  | cons act acts rest =>
    refine rest ?_
    rw [signs_act, signs_act, same]

/-- To publish changes no sign. -/
theorem signs_publish (network : Network) (bus j : Nat) (event : Event Payload) :
    (network.act (.on bus (.publish j event))).signs = network.signs := by
  rw [signs_act]
  exact (congrArg (network.signs.modify j) (funext fun s => by simp [Act.shuts])).trans
    (List.modify_id ..)

/-! ## What is noticed -/

theorem writing?_publish (network : Network) (bus j : Nat) (event : Event Payload) :
    network.writing? (.on bus (.publish j event))
      = ((network.brokers[j]?).map (·.sign)).bind fun sign =>
        (if sign.closed then none else (Envelope.sealEvent event).toOption.map (·.encode)).map
          (sign.bus, sign.channel, ·) := by
  rw [Option.bind_map]
  rfl

section Same

variable (same : network.signs = other.signs)
include same

theorem length_of_signs : network.brokers.length = other.brokers.length := by
  have length := congrArg List.length same
  rwa [signs, signs, List.length_map, List.length_map] at length

/-- Brokers in the same place have the same sign. -/
theorem sign_of_signs (index : Nat) :
    (network.brokers[index]?).map (·.sign) = (other.brokers[index]?).map (·.sign) := by
  rw [← List.getElem?_map, ← signs, same, signs, List.getElem?_map]

theorem writing?_of_signs (act : Act) : network.writing? act = other.writing? act := by
  cases act with
  | closing j | stop bus => rfl
  | on bus step =>
    cases step with
    | publish j event => rw [writing?_publish, writing?_publish, sign_of_signs same]
    | start | write | shutdown | turn | subscribe | close | unsubscribe | dropHandle | dropReceiver
    | receive => rfl

theorem hears?_of_signs (channel : String) (act : Act) :
    network.hears? channel act = other.hears? channel act := by
  have writes := writing?_of_signs same act
  unfold hears?
  split
  · rfl
  · rw [writes]

theorem notices?_of_signs (act : Act) : network.notices? index act = other.notices? index act := by
  have sign := sign_of_signs same index
  unfold notices?
  split
  · rfl
  cases here : network.brokers[index]? with
  | none =>
    have absent : other.brokers[index]? = none := by simpa [here] using sign.symm
    rw [absent]
    simp only [starts?, length_of_signs same]
  | some broker =>
    rw [here, Option.map_some, eq_comm, Option.map_eq_some_iff] at sign
    obtain ⟨broker', there, signed⟩ := sign
    have channel : broker'.channel = broker.channel := congrArg (·.channel) signed
    simp only [there, channel]
    exact hears?_of_signs same broker.channel act

theorem visible_of_signs (acts : List Act) :
    network.visible index acts = other.visible index acts := by
  induction acts generalizing network other with
  | nil => rfl
  | cons act acts rest =>
    have after : (network.act act).signs = (other.act act).signs := signs_acts same [act]
    rw [visible, visible, notices?_of_signs same, rest after]

end Same

theorem visible_append (network : Network) (index : Nat) (earlier later : List Act) :
    network.visible index (earlier ++ later)
      = network.visible index earlier ++ (network.acts earlier).visible index later := by
  induction earlier generalizing network with
  | nil => rfl
  | cons act earlier rest =>
    rw [List.cons_append, visible, visible, rest, List.append_assoc]
    rfl

/-- What a broker publishes on another channel is not noticed. -/
theorem notices?_publish_elsewhere {j : Nat} {publisher : Broker}
    (there : network.brokers[j]? = some publisher)
    (elsewhere : ∀ broker, network.brokers[index]? = some broker →
      publisher.channel ≠ broker.channel) (bus : Nat) (event : Event Payload) :
    network.notices? index (.on bus (.publish j event)) = none := by
  have different : j ≠ index := by
    rintro rfl
    exact elsewhere publisher there rfl
  cases here : network.brokers[index]? with
  | none =>
    have unnamed : (Act.on bus (.publish j event)).broker? ≠ some index := fun names =>
      different (Option.some.inj names)
    rw [notices?, if_neg unnamed, here]
    rfl
  | some broker =>
    rw [Option.eq_none_iff_forall_ne_some]
    intro noticed notices
    obtain ⟨_, _, other, _, same, there', shares, _⟩ := notices?_other here rfl different notices
    cases same
    cases there.symm.trans there'
    exact elsewhere broker here shares

end Network

end Fanout
