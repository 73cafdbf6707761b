import Fanout.Proofs.Network.Loop

/-! Writes: a message that is written comes behind what every loop on its channel has still to come
to. What is published while the loop of its broker is down is broadcast by the broker at once. -/

namespace Fanout

open Network Broker

namespace Chronicle

variable {chronicle : Chronicle} {hub after : Hub} {brokers brokers' : List Broker} {step : Step}
  {index : Nat} {broker broker' : Broker} {entry : Write}

/-! ## The record of writes -/

theorem writesOn_write (written : chronicle.network.write? step = some entry) (channel : String) :
    (chronicle.advance step).writesOn channel
      = chronicle.writesOn channel ++ if entry.channel = channel then [entry] else [] := by
  rw [writesOn_advance, written]
  by_cases same : entry.channel = channel <;> simp [Option.filter, same]

theorem count_write (written : chronicle.network.write? step = some entry) (channel : String) :
    (chronicle.advance step).count channel
      = chronicle.count channel + if entry.channel = channel then 1 else 0 := by
  rw [count, writesOn_write written, List.length_append, count]
  split <;> rfl

theorem content_write (written : chronicle.network.write? step = some entry) :
    (chronicle.advance step).content entry.channel (chronicle.count entry.channel)
      = some entry.message := by
  rw [content, writesOn_write written, if_pos rfl, count, List.getElem?_concat_length,
    Option.map_some]

theorem number_write (written : chronicle.network.write? step = some entry) :
    chronicle.number step = chronicle.count entry.channel := by
  rw [number, written, Option.map_some, Option.getD_some]

theorem Sound.stored_write (sound : chronicle.Sound hub brokers)
    (written : chronicle.network.write? step = some entry)
    (steps : chronicle.network.step step
      = .onHub (hub.write entry.channel entry.message).1 brokers') :
    (chronicle.advance step).stored = hub.storedAfter chronicle.stored
      (hub.write entry.channel entry.message).1 (chronicle.count entry.channel) := by
  simp only [advance, steps, onHub_hub, sound.hub_eq, number_write written]

/-- The number of a new write is behind all that is stored in the channels of its name. -/
theorem Sound.ordered_write (sound : chronicle.Sound hub brokers)
    (written : chronicle.network.write? step = some entry) {k : Nat} {d : Channel}
    (here : (hub.write entry.channel entry.message).1.channels[k]? = some d) :
    (hub.storedAfter chronicle.stored (hub.write entry.channel entry.message).1
      (chronicle.count entry.channel) k ++ [(chronicle.advance step).count d.name]).Pairwise
        (· < ·) := by
  have before : (chronicle.stored k ++ [chronicle.count d.name]).Pairwise (· < ·) := by
    obtain ⟨c, found, same⟩ := Hub.before_write here
    rcases hub.getElem?_channel entry.channel k with kept | ⟨atEnd, _, _⟩
    · have named : d.name = c.name := by
        rw [same]
        split <;> simp
      rw [named]
      exact sound.ordered k c (kept.symm.trans found)
    · rw [sound.logs.absent k (List.getElem?_eq_none (Nat.le_of_eq atEnd.symm))]
      exact List.pairwise_singleton ..
  rw [pairwise_snoc] at before
  rw [count_write written, Hub.storedAfter]
  rcases hub.written_write_cases entry.channel entry.message k with same | ⟨grown, c, found, named⟩
  · rw [same, Nat.sub_self, List.replicate_zero, List.append_nil, pairwise_snoc]
    exact ⟨before.1, fun m member => Nat.lt_of_lt_of_le (before.2 m member) (Nat.le_add_right ..)⟩
  · cases here.symm.trans found
    rw [grown, Nat.add_sub_cancel_left, List.replicate_one, named, if_pos rfl, pairwise_snoc]
    rw [named] at before
    refine ⟨pairwise_snoc.mpr before, ?_⟩
    intro m member
    rcases List.mem_append.mp member with old | new
    · exact Nat.lt_succ_of_lt (before.2 m old)
    · rw [List.mem_singleton.mp new]
      exact Nat.lt_succ_self _

/-- A write leaves the chronicle sound, whatever becomes of the clients of brokers. -/
theorem Sound.wrote (sound : chronicle.Sound hub brokers)
    (written : chronicle.network.write? step = some entry)
    (steps : chronicle.network.step step
      = .onHub (hub.write entry.channel entry.message).1 brokers')
    (all : AllStay brokers brokers')
    (sealed : ∀ event, entry.event = some event →
      ∃ envelope, Envelope.sealEvent event = .ok envelope ∧ entry.message = envelope.encode) :
    (chronicle.advance step).Sound (hub.write entry.channel entry.message).1 brokers' := by
  constructor
  case network => exact steps
  case logs =>
    rw [sound.stored_write written steps]
    have logs : hub.Logs chronicle.stored (chronicle.advance step).content := by
      apply sound.logs.congr
      intro k c here n member
      exact content_advance (sound.bound here member)
    exact logs.write (content_write written)
  case ordered =>
    intro k d here
    rw [sound.stored_write written steps]
    exact sound.ordered_write written here
  case wired =>
    intro index broker' here
    obtain ⟨broker, before, stays⟩ := all.before here
    apply (sound.wired index broker before).stays stays
    intro k reader position c _ found at?
    obtain ⟨d, found', named, _⟩ := Hub.getElem?_write_of_some entry.channel entry.message found
    exact ⟨position, d, found', named, (hub.position?_write ..).trans at?⟩
  case alone => exact all.alone sound.alone
  case sealed =>
    intro made member
    simp only [advance, written, Option.toList_some, List.mem_append, List.mem_singleton] at member
    rcases member with old | rfl
    · exact sound.sealed made old
    · exact sealed

/-! ## What a write is for a broker -/

/-- The loops that a write reaches have its number to come to behind everything else. -/
theorem Sound.pending_write (sound : chronicle.Sound hub brokers)
    (written : chronicle.network.write? step = some entry)
    (steps : chronicle.network.step step
      = .onHub (hub.write entry.channel entry.message).1 brokers')
    (sound' : (chronicle.advance step).Sound (hub.write entry.channel entry.message).1 brokers')
    (here : brokers[index]? = some broker) (here' : brokers'[index]? = some broker')
    (stays : broker.Stays broker') :
    (entry.channel = broker.channel ∧ broker.Attached hub ∧ (chronicle.advance step).pending index
        = chronicle.pending index ++ [chronicle.count entry.channel]) ∨
      ((entry.channel = broker.channel → ¬ broker.Attached hub) ∧
        (chronicle.advance step).pending index = chronicle.pending index) := by
  rw [sound'.pending_eq here', sound.pending_eq here, sound.stored_write written steps]
  cases stream : broker.inbound.stream? with
  | none =>
    refine .inr ⟨fun _ => not_attached_of_none stream, ?_⟩
    rw [pending_of_none stream, pending_of_none (stays.stream.trans stream)]
  | some found =>
    obtain ⟨k, reader, position, c, rfl, found, named, at?⟩ :=
      (sound.wired index broker here).stream found stream
    have holds := sound.logs.holds k c found
    have reached : c.position? reader = some position := by
      simpa only [Hub.position?, found, Option.bind_some] using at?
    have position_le : position ≤ (chronicle.stored k).length :=
      holds.written ▸ holds.positions reader position reached
    have grown := sound.logs.written_write entry.channel found entry.message
    rw [pending_of_stream stream at?, pending_of_stream (stays.stream.trans stream)
      ((hub.position?_write ..).trans at?), Hub.storedAfter, grown, Nat.add_sub_cancel_left,
      List.drop_append_of_le_length position_le]
    by_cases target : c.isOpen = true ∧ c.name = entry.channel
    · refine .inl ⟨target.2.symm.trans named, ⟨k, reader, c, stream, found, target.1⟩, ?_⟩
      rw [if_pos ⟨target, Channel.receivers_pos reached⟩, List.replicate_one]
    · refine .inr ⟨fun same attached => target ?_, ?_⟩
      · obtain ⟨k', reader', c', stream', found', isOpen⟩ := attached
        cases stream.symm.trans stream'
        cases found.symm.trans found'
        exact ⟨isOpen, named.trans same.symm⟩
      · rw [if_neg fun both => target both.1, List.replicate_zero, List.append_nil]

/-- A write passes a broker that does not broadcast it. -/
theorem Sound.passes_write (sound : chronicle.Sound hub brokers)
    (written : chronicle.network.write? step = some entry)
    (steps : chronicle.network.step step
      = .onHub (hub.write entry.channel entry.message).1 brokers')
    (sound' : (chronicle.advance step).Sound (hub.write entry.channel entry.message).1 brokers')
    (here : brokers[index]? = some broker) (here' : brokers'[index]? = some broker)
    (noItem : chronicle.network.item? index step = none)
    (silent : chronicle.network.broadcast? index step = none) :
    chronicle.Passes step hub (hub.write entry.channel entry.message).1 index broker broker := by
  constructor
  case channel => rfl
  case closed => exact fun closed => closed
  case attached =>
    intro _ attached
    right
    apply attached.stays (.refl broker)
    intro _ _ c _ found isOpen
    obtain ⟨d, found', _, same⟩ := Hub.getElem?_write_of_some entry.channel entry.message found
    exact ⟨d, found', same.trans isOpen⟩
  case tells =>
    rw [silent]
    exact tells_none_refl broker
  case flow =>
    rw [noItem, silent]
    have counted := count_write written broker.channel
    rcases sound.pending_write written steps sound' here here' (.refl broker) with
      ⟨same, _, pending⟩ | ⟨detached, pending⟩
    · rw [if_pos same] at counted
      exact .stored (same ▸ pending) counted
    · by_cases same : entry.channel = broker.channel
      · rw [if_pos same] at counted
        exact .missed pending counted (sound.hub_eq ▸ detached same)
      · rw [if_neg same] at counted
        exact .still pending counted

theorem Sound.write (sound : chronicle.Sound hub brokers) (channel : String) (message : Bytes) :
    chronicle.Advances hub brokers (.write channel message) := by
  have steps : chronicle.network.step (.write channel message)
      = .onHub (hub.write channel message).1 brokers := by
    rw [sound.network, step_write]
  have written : chronicle.network.write? (.write channel message)
      = some ⟨channel, none, message⟩ := rfl
  have sound' := sound.wrote written steps (allStay_refl brokers) (by simp)
  exact ⟨_, brokers, sound', Nat.le_refl _, fun index broker here =>
    .inl ⟨broker, here, sound.passes_write written steps sound' here here rfl rfl⟩⟩

/-! ## Publishing -/

theorem broadcast?_publish_other (network : Network) {publishing : Nat}
    (other : index ≠ publishing) (event : Event Payload) :
    network.broadcast? index (.publish publishing event) = none := by
  simp only [broadcast?, other.symm, false_and, if_false]
  cases network.brokers[index]? with
  | none => rfl
  | some broker => cases (Envelope.sealEvent event).toOption <;> rfl

theorem Sound.broadcast?_publish (sound : chronicle.Sound hub brokers)
    (here : brokers[index]? = some broker) (running : broker.closed = false)
    {event : Event Payload} {envelope : Envelope}
    (sealed : Envelope.sealEvent event = .ok envelope) :
    chronicle.network.broadcast? index (.publish index event)
      = if broker.listening then none else some envelope := by
  have taken : ((onHub hub brokers).fabric.write broker.bus broker.channel envelope.encode).value
      = ((onHub (hub.write broker.channel envelope.encode).1 brokers).fabric, .ok ()) := by
    rw [(sound.wired index broker here).bus, onHub_write]
  simp only [broadcast?, sound.network, onHub_brokers, here, sealed]
  cases listening : broker.listening <;>
    simp [running, listening, taken, Except.toOption, Except.isOk, Except.toBool]

theorem silent_of_quiet {network : Network} {event : Event Payload}
    (quiet : network.write? (.publish index event) = none) (j : Nat) :
    network.broadcast? j (.publish index event) = none := by
  by_cases same : j = index
  · subst same
    simp only [write?, broadcast?] at quiet ⊢
    cases here : network.brokers[j]? with
    | none => rfl
    | some broker =>
      cases sealed : (Envelope.sealEvent event).toOption with
      | none => rfl
      | some envelope =>
        have closed : broker.closed = true := by simpa [here, sealed] using quiet
        simp [closed]
  · exact broadcast?_publish_other network same event

theorem idle_of_quiet {event : Event Payload}
    (quiet : chronicle.network.write? (.publish index event) = none) :
    chronicle.Idle (.publish index event) :=
  ⟨quiet, fun _ => rfl, silent_of_quiet quiet⟩

/-- A broker whose loop is down broadcasts what is published on it. -/
theorem Sound.passes_direct (sound : chronicle.Sound hub brokers)
    (here : brokers[index]? = some broker) (running : broker.closed = false)
    (down : broker.listening = false) {event : Event Payload} {envelope : Envelope}
    (sealed : Envelope.sealEvent event = .ok envelope)
    (written : chronicle.network.write? (.publish index event)
      = some ⟨broker.channel, some event, envelope.encode⟩)
    (sound' : (chronicle.advance (.publish index event)).Sound
      (hub.write broker.channel envelope.encode).1
      (brokers.set index (broker.broadcast envelope.data envelope.scope).value.1)) :
    chronicle.Passes (.publish index event) hub (hub.write broker.channel envelope.encode).1 index
      broker (broker.broadcast envelope.data envelope.scope).value.1 := by
  have gone : broker.inbound.stream? = none := by
    simpa [down] using (sound.wired index broker here).listening
  have heard := sound.broadcast?_publish here running sealed
  rw [if_neg (by simp [down])] at heard
  have source : chronicle.source (.publish index event) = chronicle.count broker.channel :=
    number_write written
  have here' := List.getElem?_set_self
    (a := (broker.broadcast envelope.data envelope.scope).value.1)
    (List.getElem?_eq_some_iff.mp here).1
  constructor
  case channel => rfl
  case closed => exact fun closed => closed
  case attached => exact fun _ attached => absurd attached (not_attached_of_none gone)
  case tells =>
    rw [heard]
    exact tells_broadcast broker envelope
  case flow =>
    rw [heard, source]
    refine .direct ?_ ?_ ?_ (content_write written)
      (Envelope.decode_encode_of_sealEvent sealed)
    · rw [sound.pending_eq here, pending_of_none gone]
    · exact (sound'.pending_eq here').trans (pending_of_none gone)
    · rw [count_write written, if_pos rfl]

theorem Sound.publish_running (sound : chronicle.Sound hub brokers)
    (here : brokers[index]? = some broker) (running : broker.closed = false)
    {event : Event Payload} {envelope : Envelope}
    (sealed : Envelope.sealEvent event = .ok envelope) :
    chronicle.Advances hub brokers (.publish index event) := by
  have onBus := (sound.wired index broker here).bus
  have written : chronicle.network.write? (.publish index event)
      = some ⟨broker.channel, some event, envelope.encode⟩ := by
    simp [write?, sound.network, here, sealed, running, Except.toOption]
  have known : ∀ published, some event = some published →
      ∃ e, Envelope.sealEvent published = .ok e ∧ envelope.encode = e.encode := by
    intro published same
    cases same
    exact ⟨envelope, sealed, rfl⟩
  have heard := sound.broadcast?_publish here running sealed
  cases listening : broker.listening with
  | true =>
    rw [listening, if_pos rfl] at heard
    have steps := sound.steps (publish_listening here onBus running listening sealed)
    have sound' := sound.wrote written steps (allStay_refl brokers) known
    refine ⟨_, brokers, sound', Nat.le_refl _, fun j b found => .inl ⟨b, found, ?_⟩⟩
    refine sound.passes_write written steps sound' found found rfl ?_
    by_cases same : j = index
    · rw [same, heard]
    · exact broadcast?_publish_other _ same event
  | false =>
    have steps := sound.steps (publish_direct here onBus running listening sealed)
    have sound' := sound.wrote written steps
      (allStay_set here ⟨rfl, rfl, rfl, rfl, rfl⟩) known
    refine ⟨_, _, sound', Nat.le_of_eq List.length_set.symm, fun j b found => .inl ?_⟩
    rcases getElem?_set_cases found with ⟨rfl, rfl⟩ | ⟨other, before⟩
    · exact ⟨broker, here, sound.passes_direct here running listening sealed written sound'⟩
    · exact ⟨b, before, sound.passes_write written steps sound' before found rfl
        (broadcast?_publish_other _ other event)⟩

theorem Sound.publish (sound : chronicle.Sound hub brokers) (index : Nat) (event : Event Payload) :
    chronicle.Advances hub brokers (.publish index event) := by
  cases here : brokers[index]? with
  | none =>
    have quiet : chronicle.network.write? (.publish index event) = none := by
      simp [write?, sound.network, here]
    apply sound.local_refl (idle_of_quiet quiet)
    simp [sound.network, step, Network.publish, here]
  | some broker =>
    cases running : broker.closed with
    | true =>
      have quiet : chronicle.network.write? (.publish index event) = none := by
        cases sealed : Envelope.sealEvent event <;>
          simp [write?, sound.network, here, sealed, running, Except.toOption]
      apply sound.local_refl (idle_of_quiet quiet)
      rw [sound.network, publish_closed here running]
    | false =>
      cases sealed : Envelope.sealEvent event with
      | ok envelope => exact sound.publish_running here running sealed
      | error fault =>
        have quiet : chronicle.network.write? (.publish index event) = none := by
          simp [write?, sound.network, here, sealed, Except.toOption]
        have steps := sound.steps (publish_error here running sealed)
        apply sound.local_set (idle_of_quiet quiet) here steps ⟨rfl, rfl, rfl, rfl, rfl⟩
        constructor
        case capacity => rfl
        case length => rfl
        case droppedFull => rfl
        case client => exact fun _ client found => .inl ⟨client, found, .refl client⟩

/-! ## Every step -/

theorem Sound.advance (sound : chronicle.Sound hub brokers) (step : Step) :
    chronicle.Advances hub brokers step := by
  cases step with
  | start config => exact sound.start config
  | publish index event => exact sound.publish index event
  | write channel message => exact sound.write channel message
  | turn index => exact sound.turn index
  | subscribe index filter => exact sound.subscribe index filter
  | unsubscribe id =>
    exact sound.onRegistry ⟨rfl, fun _ => rfl, fun _ => rfl⟩ rfl (·.wanes_unsubscribe id.serial)
  | dropHandle id =>
    exact sound.onRegistry ⟨rfl, fun _ => rfl, fun _ => rfl⟩ rfl (·.wanes_dropHandle id.serial)
  | dropReceiver id =>
    exact sound.onRegistry ⟨rfl, fun _ => rfl, fun _ => rfl⟩ rfl (·.wanes_dropReceiver id.serial)
  | receive id =>
    exact sound.onRegistry ⟨rfl, fun _ => rfl, fun _ => rfl⟩ rfl (·.wanes_receive id.serial)
  | close index => exact sound.close index
  | shutdown => exact sound.shutdown

theorem sound_start (capacity : Nat) : (start capacity).Sound (.new capacity) [] := by
  refine ⟨rfl, Hub.logs_new capacity _, ?_, ?_, ?_, ?_⟩ <;> simp [start, Hub.new, Alone]

theorem run_concat (capacity : Nat) (steps : List Step) (step : Step) :
    run capacity (steps ++ [step]) = (run capacity steps).advance step :=
  List.foldl_concat ..

theorem sound_run (capacity : Nat) (steps : List Step) :
    ∃ hub brokers, (run capacity steps).Sound hub brokers := by
  induction steps using List.reverseRecOn with
  | nil => exact ⟨_, _, sound_start capacity⟩
  | append_singleton steps step before =>
    obtain ⟨hub, brokers, sound⟩ := before
    obtain ⟨after, brokers', sound', _⟩ := sound.advance step
    rw [run_concat]
    exact ⟨after, brokers', sound'⟩

/-- What holds after some steps and is kept by each of those that follow holds at the end. -/
theorem run_induction {motive : Chronicle → Prop} (capacity : Nat) (before after : List Step)
    (first : motive (run capacity before))
    (next : ∀ (chronicle : Chronicle) (hub : Hub) (brokers : List Broker), ∀ step ∈ after,
      chronicle.Sound hub brokers → chronicle.Advances hub brokers step → motive chronicle →
      motive (chronicle.advance step)) : motive (run capacity (before ++ after)) := by
  induction after using List.reverseRecOn with
  | nil =>
    rw [List.append_nil]
    exact first
  | append_singleton after step earlier =>
    rw [← List.append_assoc, run_concat]
    obtain ⟨hub, brokers, sound⟩ := sound_run capacity (before ++ after)
    apply next _ hub brokers step (by simp) sound (sound.advance step)
    apply earlier
    intro chronicle hub brokers step member
    exact next chronicle hub brokers step (List.mem_append_left _ member)

end Chronicle

end Fanout
