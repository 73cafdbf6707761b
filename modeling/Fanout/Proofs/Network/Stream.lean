import Mathlib.Data.List.Induction
import Fanout.Proofs.Broker
import Fanout.Proofs.Network.Acts

/-! The streams of inbound loops on any buses. Each loop on a hub has a reader of its own, and
everything that was written to its channel since it was opened has been read, was lost on the way
and reported, or is still to come. -/

namespace Fanout

/-- Whether an act ends the channels of a hub. -/
def Fabric.ends (fabric : Fabric) (hub : Nat) : Act → Bool
  | .on bus .shutdown => fabric.hub? bus = some hub
  | _ => false

namespace Broker

variable {fabric : Fabric} {broker : Broker} {stream : Stream} {hub : Nat} {name : String}
  {isOpen : Bool} {unread : Nat}

/-- How many messages an act that names the broker writes to a channel of a hub. -/
def wrote (hub : Nat) (channel : String) (fabric : Fabric) (broker : Broker) : Act → Nat
  | .on _ (.publish _ event) =>
    match broker.closed, Envelope.sealEvent event with
    | false, .ok _ =>
      if fabric.target? broker.bus = some hub ∧ broker.channel = channel then 1 else 0
    | _, _ => 0
  | _ => 0

/-- How many messages the loop of a broker has read or has lost. -/
def passed (broker : Broker) : UInt64 := broker.stats.inboundReceived + broker.stats.busLagged

/-! ## Publishing -/

theorem passed_published (fabric : Fabric) (broker : Broker) (event : Event Payload) :
    (broker.published fabric event).2.passed = broker.passed := by
  unfold published
  split
  · rfl
  split
  · rfl
  split
  · split <;> rfl
  · rfl

theorem sane_published (sane : fabric.Sane) (broker : Broker) (event : Event Payload) :
    (broker.published fabric event).1.Sane := by
  unfold published
  split
  · exact sane
  split
  · exact sane
  · exact sane.write broker.bus broker.channel _

theorem sees_published (sees : fabric.Sees stream name isOpen unread) (sane : fabric.Sane)
    (on : stream.hub? = some hub) (broker : Broker) (bus index : Nat) (event : Event Payload) :
    (broker.published fabric event).1.Sees stream name isOpen (unread + if isOpen then
      broker.wrote hub name fabric (.on bus (.publish index event)) else 0) := by
  cases closed : broker.closed with
  | true =>
    rw [published_closed closed]
    simpa [wrote, closed] using sees
  | false =>
    cases sealed : Envelope.sealEvent event with
    | error fault =>
      rw [published_error closed sealed]
      simpa [wrote, closed, sealed] using sees
    | ok envelope =>
      rw [published_sealed closed sealed]
      have written := sees.write sane broker.bus broker.channel envelope.encode
      cases isOpen <;> simpa [wrote, closed, sealed, on] using written

/-! ## Reading -/

theorem passed_found (fabric : Fabric) (stream : Stream) (broker : Broker) (next : Next) :
    (broker.found fabric stream next).2.passed = broker.passed + .ofNat next.covers := by
  cases next with
  | pending | ended => exact (UInt64.add_zero _).symm
  | item item =>
    cases item with
    | lagged lost => exact (UInt64.add_assoc _ _ _).symm
    | message message =>
      have counted (s t : Stats) (one : t.inboundReceived = s.inboundReceived + 1)
          (same : t.busLagged = s.busLagged) :
          t.inboundReceived + t.busLagged = s.inboundReceived + s.busLagged + .ofNat 1 := by
        rw [one, same]
        grind
      rw [found]
      cases decoded : Envelope.decode message with
      | error fault =>
        rw [take_malformed _ decoded]
        exact counted _ _ rfl rfl
      | ok envelope =>
        rw [take_message _ decoded]
        exact counted _ _ rfl rfl

/-- What a loop finds on its stream is off it, and is counted. -/
theorem sees_turned (reads : broker.inbound.stream? = some stream)
    (sees : fabric.Sees stream name isOpen unread) (sane : fabric.Sane)
    (goes : (broker.turned fabric).2.inbound.stream? = some stream) :
    ∃ left, (broker.turned fabric).1.Sees stream name isOpen left ∧
      (broker.turned fabric).2.passed + .ofNat left = broker.passed + .ofNat unread := by
  obtain ⟨left, sees', covered⟩ := sees.next sane
  rw [turned_stream reads] at goes ⊢
  refine ⟨left, ?_, ?_⟩
  · generalize (fabric.next stream).value.2 = next at goes
    cases next with
    | pending | item _ => exact sees'
    | ended => contradiction
  · rw [passed_found, covered, UInt64.ofNat_add]
    grind

theorem sane_turned (sane : fabric.Sane)
    (held : ∀ own, broker.inbound.stream? = some own → fabric.Held own) :
    (broker.turned fabric).1.Sane := by
  cases reads : broker.inbound.stream? with
  | none =>
    rw [turned_idle reads]
    exact sane
  | some own =>
    rw [turned_stream reads]
    have sane' := sane.next (held own reads)
    cases (fabric.next own).value.2 with
    | pending | item _ => exact sane'
    | ended => exact sane'.drop own

theorem sees_turned_other (sees : fabric.Sees stream name isOpen unread) (sane : fabric.Sane)
    (held : ∀ own, broker.inbound.stream? = some own → fabric.Held own)
    (different : broker.inbound.stream? ≠ some stream) :
    (broker.turned fabric).1.Sees stream name isOpen unread := by
  cases reads : broker.inbound.stream? with
  | none =>
    rw [turned_idle reads]
    exact sees
  | some own =>
    have other : stream ≠ own := fun same => different (same ▸ reads)
    rw [turned_stream reads]
    have sees' := sees.next_other sane (held own reads) other
    cases (fabric.next own).value.2 with
    | pending | item _ => exact sees'
    | ended => exact sees'.drop_other other

/-! ## Every act -/

theorem sane_shut (sane : fabric.Sane) (broker : Broker) : (broker.shut fabric).1.Sane := by
  unfold shut
  cases broker.inbound.stream? with
  | none => exact sane
  | some own => exact sane.drop own

theorem sees_shut_other (sees : fabric.Sees stream name isOpen unread)
    (different : broker.inbound.stream? ≠ some stream) :
    (broker.shut fabric).1.Sees stream name isOpen unread := by
  unfold shut
  cases reads : broker.inbound.stream? with
  | none => exact sees
  | some own => exact sees.drop_other fun same => different (same ▸ reads)

theorem sane_perform (sane : fabric.Sane)
    (held : ∀ own, broker.inbound.stream? = some own → fabric.Held own) (act : Act) :
    (broker.perform fabric act).1.Sane := by
  cases act with
  | closing j | stop bus => exact sane
  | on bus step =>
    cases step with
    | publish j event => exact sane_published sane broker event
    | turn j => exact sane_turned sane held
    | close j => exact sane_shut sane broker
    | start config | write channel message | shutdown | subscribe j filter | unsubscribe id
    | dropHandle id | dropReceiver id | receive id => exact sane

theorem wrote_quiet {act : Act} (quiet : broker.wrote hub name fabric act = 0) :
    (unread + if isOpen then broker.wrote hub name fabric act else 0) = unread := by
  rw [quiet, ite_self, Nat.add_zero]

/-- What one broker does is for the stream of another one what it writes there. -/
theorem sees_perform_other (sees : fabric.Sees stream name isOpen unread) (sane : fabric.Sane)
    (on : stream.hub? = some hub)
    (held : ∀ own, broker.inbound.stream? = some own → fabric.Held own)
    (different : broker.inbound.stream? ≠ some stream) (act : Act) :
    (broker.perform fabric act).1.Sees stream name isOpen
      (unread + if isOpen then broker.wrote hub name fabric act else 0) := by
  cases act with
  | closing j | stop bus =>
    rw [wrote_quiet rfl]
    exact sees
  | on bus step =>
    cases step with
    | publish j event => exact sees_published sees sane on broker bus j event
    | turn j =>
      rw [wrote_quiet rfl]
      exact sees_turned_other sees sane held different
    | close j =>
      rw [wrote_quiet rfl]
      exact sees_shut_other sees different
    | start config | write channel message | shutdown | subscribe j filter | unsubscribe id
    | dropHandle id | dropReceiver id | receive id =>
      rw [wrote_quiet rfl]
      exact sees

/-- What a broker does with its own stream is counted. -/
theorem sees_perform_self (sees : fabric.Sees stream name isOpen unread) (sane : fabric.Sane)
    (on : stream.hub? = some hub) (reads : broker.inbound.stream? = some stream) (act : Act)
    (goes : (broker.perform fabric act).2.inbound.stream? = some stream) :
    ∃ left, (broker.perform fabric act).1.Sees stream name isOpen left ∧
      (broker.perform fabric act).2.passed + .ofNat left = broker.passed
        + .ofNat (unread + if isOpen then broker.wrote hub name fabric act else 0) := by
  cases act with
  | closing j | stop bus =>
    rw [wrote_quiet rfl]
    exact ⟨unread, sees, rfl⟩
  | on bus step =>
    cases step with
    | publish j event =>
      exact ⟨_, sees_published sees sane on broker bus j event,
        congrArg (· + _) (passed_published fabric broker event)⟩
    | turn j =>
      rw [wrote_quiet rfl]
      exact sees_turned reads sees sane goes
    | close j =>
      rw [perform, shut_stream] at goes
      contradiction
    | start config | write channel message | shutdown | unsubscribe id | dropHandle id
    | dropReceiver id | receive id =>
      rw [wrote_quiet rfl]
      exact ⟨unread, sees, rfl⟩
    | subscribe j filter =>
      rw [wrote_quiet rfl, perform_subscribe]
      exact ⟨unread, sees, rfl⟩

end Broker

namespace Network

variable {network : Network} {index : Nat} {broker broker' : Broker} {stream : Stream} {hub : Nat}

/-- How many messages an act writes to a channel of a hub. -/
def wrote (hub : Nat) (channel : String) (network : Network) : Act → Nat
  | .on bus (.write name _) =>
    if network.fabric.target? bus = some hub ∧ name = channel then 1 else 0
  | .on bus (.publish index event) =>
    ((network.brokers[index]?).map fun broker =>
      broker.wrote hub channel network.fabric (.on bus (.publish index event))).getD 0
  | _ => 0

theorem wrote_eq {act : Act} (names : act.broker? = some index)
    (here : network.brokers[index]? = some broker) (hub : Nat) (channel : String) :
    network.wrote hub channel act = broker.wrote hub channel network.fabric act := by
  cases act with
  | closing j | stop bus => rfl
  | on bus step =>
    cases step with
    | start config | write name message | shutdown => contradiction
    | publish j event =>
      cases names
      rw [wrote, here]
      rfl
    | turn | subscribe | close | unsubscribe | dropHandle | dropReceiver | receive => rfl

theorem wrote_of_absent {act : Act} (names : act.broker? = some index)
    (absent : network.brokers[index]? = none) (hub : Nat) (channel : String) :
    network.wrote hub channel act = 0 := by
  cases act with
  | closing j | stop bus => rfl
  | on bus step =>
    cases step with
    | start config | write name message | shutdown => contradiction
    | publish j event =>
      cases names
      rw [wrote, absent]
      rfl
    | turn | subscribe | close | unsubscribe | dropHandle | dropReceiver | receive => rfl

theorem ends_of_names {fabric : Fabric} {act : Act} (names : act.broker? = some index) :
    fabric.ends hub act = false := by
  cases act with
  | closing j | stop bus => rfl
  | on bus step =>
    cases step with
    | shutdown => contradiction
    | start | write | publish | turn | subscribe | close | unsubscribe | dropHandle | dropReceiver
    | receive => rfl

/-- All hubs are sane, and each loop reads a stream of its own from the hub behind its bus. -/
structure Tidy (network : Network) : Prop where
  sane : network.fabric.Sane
  reads : ∀ (index : Nat) (broker : Broker) (stream : Stream),
    network.brokers[index]? = some broker → broker.inbound.stream? = some stream →
    stream.hub? = network.fabric.hub? broker.bus ∧ (stream.hub? ≠ none →
      ∃ isOpen unread, network.fabric.Sees stream broker.channel isOpen unread)
  alone : ∀ (i j : Nat) (broker other : Broker) (stream : Stream),
    network.brokers[i]? = some broker → network.brokers[j]? = some other →
    broker.inbound.stream? = some stream → other.inbound.stream? = some stream →
    stream.hub? ≠ none → i = j

theorem Tidy.held (tidy : network.Tidy) (here : network.brokers[index]? = some broker)
    (own : Stream) (reads : broker.inbound.stream? = some own) : network.fabric.Held own := by
  intro on
  obtain ⟨isOpen, unread, sees⟩ := (tidy.reads index broker own here reads).2 on
  exact ⟨broker.channel, isOpen, unread, sees⟩

/-- What an act is for the stream of a broker: a write is a message more to come, and what its loop
takes off is counted. -/
def Follows (network : Network) (act : Act) (hub : Nat) (stream : Stream)
    (broker after : Broker) : Prop :=
  ∀ isOpen unread, network.fabric.Sees stream broker.channel isOpen unread →
    ∃ left, (network.act act).fabric.Sees stream broker.channel
        (isOpen && !network.fabric.ends hub act) left ∧
      after.passed + .ofNat left = broker.passed
        + .ofNat (unread + if isOpen then network.wrote hub broker.channel act else 0)

/-- A broker that is not named goes on with what the act makes of its stream. -/
theorem follows_bus (tidy : network.Tidy) {act : Act} (nobody : act.broker? = none)
    (on : stream.hub? = some hub) (broker : Broker) :
    network.Follows act hub stream broker broker := by
  intro isOpen unread sees
  rcases of_names_none nobody with
    ⟨bus, config, rfl⟩ | ⟨bus, channel, message, rfl⟩ | ⟨bus, rfl⟩ | ⟨bus, rfl⟩
  · refine ⟨unread, ?_, by simp [wrote]⟩
    rw [act_start]
    simpa [Fabric.ends] using (sees.subscribe bus config.channel).1
  · refine ⟨_, ?_, rfl⟩
    have written := sees.write tidy.sane bus channel message
    cases isOpen <;> simpa [Fabric.ends, wrote, on, act] using written
  · refine ⟨unread, ?_, by simp [wrote]⟩
    have ended := sees.shutdown bus
    rw [on] at ended
    have same : (!network.fabric.ends hub (.on bus .shutdown))
        = (network.fabric.hub? bus != some hub) := by
      by_cases same : network.fabric.hub? bus = some hub <;> simp [Fabric.ends, same]
    rw [same]
    exact ended
  · refine ⟨unread, ?_, by simp [wrote]⟩
    simpa [Fabric.ends, act] using sees.of_hubs (network.fabric.hubs_stop bus)

theorem follows_self (tidy : network.Tidy) {act : Act} (names : act.broker? = some index)
    (here : network.brokers[index]? = some broker)
    (reads : broker.inbound.stream? = some stream)
    (goes : (broker.perform network.fabric act).2.inbound.stream? = some stream)
    (on : stream.hub? = some hub) :
    network.Follows act hub stream broker (broker.perform network.fabric act).2 := by
  intro isOpen unread sees
  rw [ends_of_names names, Bool.not_false, Bool.and_true, act_eq_put names here,
    wrote_eq names here]
  exact Broker.sees_perform_self sees tidy.sane on reads act goes

theorem follows_other (tidy : network.Tidy) {act : Act} {j : Nat} (names : act.broker? = some j)
    (different : j ≠ index) (here : network.brokers[index]? = some broker)
    (reads : broker.inbound.stream? = some stream) (on : stream.hub? = some hub) :
    network.Follows act hub stream broker broker := by
  intro isOpen unread sees
  rw [ends_of_names names, Bool.not_false, Bool.and_true]
  cases there : network.brokers[j]? with
  | none =>
    rw [act_of_absent names there, wrote_of_absent names there]
    exact ⟨unread, sees, by simp⟩
  | some other =>
    have apart : other.inbound.stream? ≠ some stream := fun reads' =>
      different (tidy.alone j index other broker stream there here reads' reads (by simp [on]))
    rw [act_eq_put names there, wrote_eq names there]
    exact ⟨_, Broker.sees_perform_other sees tidy.sane on (tidy.held there) apart act, rfl⟩

theorem Tidy.follows (tidy : network.Tidy) (act : Act)
    (here : network.brokers[index]? = some broker)
    (here' : (network.act act).brokers[index]? = some broker')
    (goes : broker'.inbound.stream? = some stream) :
    broker.inbound.stream? = some stream ∧ broker.Remains broker' ∧
      ∀ hub, stream.hub? = some hub → network.Follows act hub stream broker broker' := by
  have after := broker_act act here
  cases here'.symm.trans after
  by_cases names : act.broker? = some index
  · rw [if_pos names] at goes ⊢
    have remains := broker.remains_perform network.fabric act
    have reads : broker.inbound.stream? = some stream := by
      rcases remains.loop with ⟨same, _⟩ | ⟨gone, _⟩
      · exact same.symm.trans goes
      · rw [gone] at goes
        contradiction
    exact ⟨reads, remains, fun hub on => follows_self tidy names here reads goes on⟩
  · rw [if_neg names] at goes ⊢
    refine ⟨goes, (Broker.Stays.refl broker).remains rfl, fun hub on => ?_⟩
    cases nobody : act.broker? with
    | none => exact follows_bus tidy nobody on broker
    | some j =>
      have different : j ≠ index := fun same => names (nobody.trans (congrArg some same))
      exact follows_other tidy nobody different here goes on

/-! ## Every network -/

theorem Tidy.sane_act (tidy : network.Tidy) (act : Act) : (network.act act).fabric.Sane := by
  cases names : act.broker? with
  | none =>
    rcases of_names_none names with
      ⟨bus, config, rfl⟩ | ⟨bus, channel, message, rfl⟩ | ⟨bus, rfl⟩ | ⟨bus, rfl⟩
    · rw [act_start]
      exact tidy.sane.subscribe bus config.channel
    · exact tidy.sane.write bus channel message
    · exact tidy.sane.shutdown bus
    · exact tidy.sane.of_hubs (network.fabric.hubs_stop bus)
  | some j =>
    cases there : network.brokers[j]? with
    | none =>
      rw [act_of_absent names there]
      exact tidy.sane
    | some other =>
      rw [act_eq_put names there]
      exact Broker.sane_perform tidy.sane (tidy.held there) act

/-- A broker that was just started has a stream that no other one has. -/
theorem Tidy.fresh (tidy : network.Tidy) {bus : Nat} {config : BrokerConfig}
    (reads : (Broker.fresh bus index config
      (network.fabric.subscribe bus config.channel).value.2).inbound.stream? = some stream) :
    (stream.hub? = network.fabric.hub? bus ∧ (stream.hub? ≠ none →
      (network.act (.on bus (.start config))).fabric.Sees stream config.channel true 0)) ∧
    ∀ (j : Nat) (other : Broker), network.brokers[j]? = some other →
      other.inbound.stream? = some stream → stream.hub? = none := by
  have opened : (network.fabric.subscribe bus config.channel).value.2 = .ok stream := by
    rw [Broker.fresh_stream] at reads
    cases opened : (network.fabric.subscribe bus config.channel).value.2 with
    | error fault => simp [opened, Except.toOption] at reads
    | ok found =>
      rw [opened] at reads
      exact congrArg Except.ok (Option.some.inj reads)
  constructor
  · rw [act_start]
    cases behind : network.fabric.hub? bus with
    | none =>
      have off : stream.hub? = none := by
        rcases network.fabric.subscribe_spec bus config.channel with
          ⟨_, _, _, _, _, behind', _⟩ | ⟨_, _, streams⟩
        · rw [behind] at behind'
          contradiction
        · obtain ⟨_, server, subscriber, rfl⟩ := streams stream opened
          rfl
      exact ⟨off, fun on => absurd off on⟩
    | some hub =>
      obtain ⟨on, sees⟩ := Fabric.sees_subscribe opened behind
      exact ⟨on, fun _ => sees⟩
  · intro j other there reads'
    by_contra on
    obtain ⟨_, _, sees⟩ := (tidy.reads j other stream there reads').2 on
    apply (sees.subscribe bus config.channel).2
    rw [opened]
    rfl

theorem Tidy.act (tidy : network.Tidy) (act : Act) : (network.act act).Tidy := by
  have alike := network.alike_act act
  constructor
  case sane => exact tidy.sane_act act
  case reads =>
    intro index broker' stream here' goes
    rcases broker_before here' with ⟨broker, here⟩ | ⟨bus, config, rfl, rfl, rfl⟩
    · obtain ⟨reads, remains, follows⟩ := tidy.follows act here here' goes
      obtain ⟨on, sees⟩ := tidy.reads index broker stream here reads
      rw [alike.hub?, remains.bus, remains.channel]
      refine ⟨on, fun some => ?_⟩
      obtain ⟨hub, on'⟩ := Option.ne_none_iff_exists'.mp some
      obtain ⟨isOpen, unread, sees⟩ := sees some
      obtain ⟨left, sees', _⟩ := follows hub on' isOpen unread sees
      exact ⟨_, left, sees'⟩
    · obtain ⟨⟨on, sees⟩, _⟩ := tidy.fresh goes
      rw [alike.hub?, Broker.fresh_bus, Broker.fresh_channel]
      exact ⟨on, fun some => ⟨true, 0, sees some⟩⟩
  case alone =>
    intro i j broker' other' stream here' there' goes goes' on
    rcases broker_before here' with ⟨broker, here⟩ | ⟨bus, config, rfl, rfl, rfl⟩
    · have reads := (tidy.follows act here here' goes).1
      rcases broker_before there' with ⟨other, there⟩ | ⟨bus, config, rfl, rfl, rfl⟩
      · exact tidy.alone i j broker other stream here there reads
          (tidy.follows act there there' goes').1 on
      · exact absurd ((tidy.fresh goes').2 i broker here reads) on
    · rcases broker_before there' with ⟨other, there⟩ | ⟨_, _, _, rfl, _⟩
      · exact absurd ((tidy.fresh goes).2 j other there (tidy.follows _ there there' goes').1) on
      · rfl

end Network

end Fanout
