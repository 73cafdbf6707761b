import Fanout.Proofs.Network.Chronicle

/-! What a step means for one broker on a hub: which numbers its loop has still to come to, what the
loop read, and what was broadcast. Everything about delivery follows from this. -/

namespace Fanout

open Network Broker

namespace Chronicle

/-- The chronicle agrees with a network of brokers on a hub. -/
structure Sound (chronicle : Chronicle) (hub : Hub) (brokers : List Broker) : Prop where
  network : chronicle.network = .onHub hub brokers
  logs : hub.Logs chronicle.stored chronicle.content
  ordered : ∀ (k : Nat) (channel : Channel), hub.channels[k]? = some channel →
    (chronicle.stored k ++ [chronicle.count channel.name]).Pairwise (· < ·)
  wired : ∀ (index : Nat) (broker : Broker), brokers[index]? = some broker → broker.Wired hub
  alone : Alone brokers
  sealed : ∀ write ∈ chronicle.writes, ∀ event, write.event = some event →
    ∃ envelope, Envelope.sealEvent event = .ok envelope ∧ write.message = envelope.encode

/-- How a step changes what the loop of a broker has still to come to, one rule for each of its
reasons; `read` and `heard` are what the loop reads and what the broker broadcasts. -/
inductive Flow (chronicle after : Chronicle) (index : Nat) (broker broker' : Broker) :
    (source : Nat) → (read : Option BusItem) → (heard : Option Envelope) → Prop where
  | still {source} : after.pending index = chronicle.pending index →
      after.count broker.channel = chronicle.count broker.channel →
      Flow chronicle after index broker broker' source none none
  /-- A write that is not stored where the broker reads. -/
  | missed {source} : after.pending index = chronicle.pending index →
      after.count broker.channel = chronicle.count broker.channel + 1 →
      ¬ broker.Attached chronicle.network.hub →
      Flow chronicle after index broker broker' source none none
  | stored {source} :
      after.pending index = chronicle.pending index ++ [chronicle.count broker.channel] →
      after.count broker.channel = chronicle.count broker.channel + 1 →
      Flow chronicle after index broker broker' source none none
  /-- A publish while the loop is down. -/
  | direct {envelope} : chronicle.pending index = [] → after.pending index = [] →
      after.count broker.channel = chronicle.count broker.channel + 1 →
      after.content broker.channel (chronicle.count broker.channel) = some envelope.encode →
      Envelope.decode envelope.encode = .ok envelope →
      Flow chronicle after index broker broker' (chronicle.count broker.channel) none
        (some envelope)
  | message {number message} :
      chronicle.pending index = number :: after.pending index →
      after.count broker.channel = chronicle.count broker.channel →
      after.content broker.channel number = some message →
      Flow chronicle after index broker broker' number (some (.message message))
        (Envelope.decode message).toOption
  | lagged {source lost} : after.pending index = (chronicle.pending index).drop lost →
      after.count broker.channel = chronicle.count broker.channel →
      Flow chronicle after index broker broker' source (some (.lagged lost)) none
  /-- The channel of the loop was closed, and nothing is left in it. -/
  | ended {source} : chronicle.pending index = [] → after.pending index = [] →
      after.count broker.channel = chronicle.count broker.channel →
      ¬ broker.Attached chronicle.network.hub →
      Flow chronicle after index broker broker' source none none
  | closed {source} : after.pending index = [] →
      after.count broker.channel = chronicle.count broker.channel → broker'.closed = true →
      Flow chronicle after index broker broker' source none none

variable {chronicle : Chronicle} {hub : Hub} {brokers : List Broker} {step : Step}

@[simp] theorem onHub_hub (hub : Hub) (brokers : List Broker) :
    (Network.onHub hub brokers).hub = hub := rfl

/-! ## Writes -/

theorem writesOn_advance (chronicle : Chronicle) (step : Step) (channel : String) :
    (chronicle.advance step).writesOn channel = chronicle.writesOn channel
      ++ ((chronicle.network.write? step).filter (·.channel = channel)).toList := by
  simp only [writesOn, advance, List.filter_append]
  cases chronicle.network.write? step with
  | none => rfl
  | some write => by_cases same : write.channel = channel <;> simp [Option.filter, same]

theorem writesOn_quiet (quiet : chronicle.network.write? step = none) (channel : String) :
    (chronicle.advance step).writesOn channel = chronicle.writesOn channel := by
  simp [writesOn_advance, quiet]

theorem count_quiet (quiet : chronicle.network.write? step = none) (channel : String) :
    (chronicle.advance step).count channel = chronicle.count channel := by
  rw [count, writesOn_quiet quiet, count]

theorem content_quiet (quiet : chronicle.network.write? step = none) :
    (chronicle.advance step).content = chronicle.content := by
  funext channel number
  rw [content, writesOn_quiet quiet, content]

theorem lt_count_of_content {channel : String} {number : Nat} {bytes : Bytes}
    (known : chronicle.content channel number = some bytes) : number < chronicle.count channel := by
  rw [content, Option.map_eq_some_iff] at known
  obtain ⟨write, found, _⟩ := known
  exact (List.getElem?_eq_some_iff.mp found).1

theorem content_advance {channel : String} {number : Nat}
    (before : number < chronicle.count channel) :
    (chronicle.advance step).content channel number = chronicle.content channel number := by
  rw [content, writesOn_advance, List.getElem?_append_left before, content]

theorem stored_of_written (same : ∀ k, (chronicle.network.step step).hub.written k
    = chronicle.network.hub.written k) :
    (chronicle.advance step).stored = chronicle.stored := by
  funext k
  simp [advance, Hub.storedAfter, same]

theorem Sound.hub_eq (sound : chronicle.Sound hub brokers) : chronicle.network.hub = hub := by
  rw [sound.network, onHub_hub]

theorem Sound.steps (sound : chronicle.Sound hub brokers) {after : Network}
    (steps : (Network.onHub hub brokers).step step = after) :
    chronicle.network.step step = after := by
  rw [sound.network, steps]

theorem Sound.bound (sound : chronicle.Sound hub brokers) {k n : Nat} {channel : Channel}
    (here : hub.channels[k]? = some channel) (member : n ∈ chronicle.stored k) :
    n < chronicle.count channel.name := by
  have pairwise := List.pairwise_append.mp (sound.ordered k channel here)
  exact pairwise.2.2 n member _ (List.mem_singleton.mpr rfl)

/-- A step without a write leaves the record of what was written as it is. -/
theorem Sound.quiet (sound : chronicle.Sound hub brokers) {after : Hub} {brokers' : List Broker}
    (steps : chronicle.network.step step = .onHub after brokers')
    (quiet : chronicle.network.write? step = none)
    (written : ∀ k, after.written k = hub.written k)
    (logs : after.Logs chronicle.stored chronicle.content)
    (names : ∀ (k : Nat) (d : Channel), after.channels[k]? = some d →
      chronicle.stored k = [] ∨ ∃ c, hub.channels[k]? = some c ∧ c.name = d.name)
    (wired : ∀ (index : Nat) (broker : Broker), brokers'[index]? = some broker →
      broker.Wired after)
    (alone : Alone brokers') :
    (chronicle.advance step).stored = chronicle.stored ∧
      (chronicle.advance step).Sound after brokers' := by
  have stored : (chronicle.advance step).stored = chronicle.stored := by
    apply stored_of_written
    intro k
    rw [steps, sound.hub_eq, onHub_hub, written]
  refine ⟨stored, ?_⟩
  constructor
  case network => exact steps
  case logs =>
    rw [stored, content_quiet quiet]
    exact logs
  case ordered =>
    intro k d here
    rw [stored, count_quiet quiet]
    rcases names k d here with empty | ⟨c, before, same⟩
    · simp [empty]
    · exact same ▸ sound.ordered k c before
  case wired => exact wired
  case alone => exact alone
  case sealed =>
    intro write member
    simp only [advance, quiet, Option.toList_none, List.append_nil] at member
    exact sound.sealed write member

/-- What a step does to one broker. -/
structure Passes (chronicle : Chronicle) (step : Step) (hub after : Hub) (index : Nat)
    (broker broker' : Broker) : Prop where
  channel : broker'.channel = broker.channel
  closed : broker.closed = true → broker'.closed = true
  attached : step ≠ .shutdown → broker.Attached hub → broker'.closed = true ∨
    broker'.Attached after
  tells : broker.Tells (chronicle.network.broadcast? index step) broker'
  flow : Flow chronicle (chronicle.advance step) index broker broker' (chronicle.source step)
    (chronicle.network.item? index step) (chronicle.network.broadcast? index step)

theorem Passes.running {index : Nat} {broker broker' : Broker}
    (passes : chronicle.Passes step hub after index broker broker')
    (running : broker'.closed = false) : broker.closed = false := by
  rw [← Bool.not_eq_true]
  intro closed
  rw [passes.closed closed] at running
  contradiction

/-- What a step does to all brokers: each of them passes it or has just been started. -/
def Advances (chronicle : Chronicle) (hub : Hub) (brokers : List Broker) (step : Step) : Prop :=
  ∃ after brokers', (chronicle.advance step).Sound after brokers' ∧
    brokers.length ≤ brokers'.length ∧
    ∀ (index : Nat) (broker' : Broker), brokers'[index]? = some broker' →
      (∃ broker, brokers[index]? = some broker ∧
        chronicle.Passes step hub after index broker broker') ∨
      (brokers[index]? = none ∧ broker'.registry.clients = [] ∧
        broker'.registry.stats.droppedFull = 0 ∧ broker'.Attached after ∧
        (chronicle.advance step).pending index = [])

theorem Sound.pending_eq (sound : chronicle.Sound hub brokers) {index : Nat} {broker : Broker}
    (here : brokers[index]? = some broker) :
    chronicle.pending index = broker.pending hub chronicle.stored := by
  rw [pending, sound.network]
  simp only [onHub_brokers, here, onHub_hub, Option.map_some, Option.getD_some]

/-! ## Steps without a write -/

variable {index : Nat} {broker broker' : Broker} {after : Hub} {brokers' : List Broker}

/-- What is left to show of a broker that a step without a write does not reach. -/
theorem passes_still (quiet : chronicle.network.write? step = none)
    (noItem : chronicle.network.item? index step = none)
    (silent : chronicle.network.broadcast? index step = none) (stays : broker.Stays broker')
    (tells : broker.Tells none broker')
    (pending : (chronicle.advance step).pending index = chronicle.pending index)
    (attached : step ≠ .shutdown → broker.Attached hub → broker'.Attached after) :
    chronicle.Passes step hub after index broker broker' := by
  constructor
  case channel => exact stays.channel
  case closed => exact stays.closed.trans
  case attached => exact fun runs here => .inr (attached runs here)
  case tells =>
    rw [silent]
    exact tells
  case flow =>
    rw [noItem, silent]
    exact .still pending (count_quiet quiet _)

/-- A step that writes nothing, reads nothing and broadcasts nothing. -/
structure Idle (chronicle : Chronicle) (step : Step) : Prop where
  quiet : chronicle.network.write? step = none
  noItem : ∀ index, chronicle.network.item? index step = none
  silent : ∀ index, chronicle.network.broadcast? index step = none

/-- A step that concerns the clients of brokers alone. -/
theorem Sound.local (sound : chronicle.Sound hub brokers) (idle : chronicle.Idle step)
    (steps : chronicle.network.step step = .onHub hub brokers')
    (all : AllStay brokers brokers')
    (tells : ∀ (index : Nat) (broker broker' : Broker), brokers[index]? = some broker →
      brokers'[index]? = some broker' → broker.Tells none broker') :
    chronicle.Advances hub brokers step := by
  have names (k : Nat) (d : Channel) (here : hub.channels[k]? = some d) :
      chronicle.stored k = [] ∨ ∃ c, hub.channels[k]? = some c ∧ c.name = d.name :=
    .inr ⟨d, here, rfl⟩
  have wired (index : Nat) (broker' : Broker) (here : brokers'[index]? = some broker') :
      broker'.Wired hub := by
    obtain ⟨broker, before, stays⟩ := all.before here
    exact (sound.wired index broker before).moves stays (.refl hub) fun _ _ _ _ at? => ⟨_, at?⟩
  obtain ⟨stored, sound'⟩ := sound.quiet steps idle.quiet (fun _ => rfl) sound.logs names wired
    (all.alone sound.alone)
  refine ⟨hub, brokers', sound', Nat.le_of_eq all.length.symm, ?_⟩
  intro index broker' here
  obtain ⟨broker, before, stays⟩ := all.before here
  have tells := tells index broker broker' before here
  refine .inl ⟨broker, before, ?_⟩
  apply passes_still idle.quiet (idle.noItem index) (idle.silent index) stays tells
  · rw [sound'.pending_eq here, sound.pending_eq before, stored]
    exact pending_congr (sound.wired index broker before) stays fun _ _ _ => rfl
  · intro _ attached
    exact attached.moves stays (.refl hub)

theorem Sound.local_refl (sound : chronicle.Sound hub brokers) (idle : chronicle.Idle step)
    (steps : chronicle.network.step step = .onHub hub brokers) :
    chronicle.Advances hub brokers step := by
  apply sound.local idle steps (allStay_refl brokers)
  intro j b d first second
  cases first.symm.trans second
  exact tells_none_refl b

theorem Sound.local_set (sound : chronicle.Sound hub brokers) (idle : chronicle.Idle step)
    (here : brokers[index]? = some broker)
    (steps : chronicle.network.step step = .onHub hub (brokers.set index broker'))
    (stays : broker.Stays broker') (tells : broker.Tells none broker') :
    chronicle.Advances hub brokers step := by
  apply sound.local idle steps (allStay_set here stays)
  intro j b d first second
  rcases getElem?_set_cases second with ⟨rfl, rfl⟩ | ⟨_, second⟩
  · cases here.symm.trans first
    exact tells
  · cases first.symm.trans second
    exact tells_none_refl b

/-- A step that changes one registry and takes from its clients at most. -/
theorem Sound.onRegistry (sound : chronicle.Sound hub brokers) (idle : chronicle.Idle step)
    {f : Registry → Registry}
    (steps : chronicle.network.step step = chronicle.network.onRegistry index f)
    (wanes : ∀ registry : Registry, registry.Wanes (f registry)) :
    chronicle.Advances hub brokers step := by
  have steps := steps.trans
    ((congrArg (·.onRegistry index f) sound.network).trans (onRegistry_eq f))
  cases here : brokers[index]? with
  | none =>
    rw [here] at steps
    exact sound.local_refl idle steps
  | some broker =>
    rw [here] at steps
    exact sound.local_set idle here steps ⟨rfl, rfl, rfl, rfl, rfl⟩ (wanes broker.registry).settles

theorem Sound.subscribe (sound : chronicle.Sound hub brokers) (index : Nat) (filter : String) :
    chronicle.Advances hub brokers (.subscribe index filter) := by
  have idle : chronicle.Idle (.subscribe index filter) := ⟨rfl, fun _ => rfl, fun _ => rfl⟩
  cases here : brokers[index]? with
  | none =>
    apply sound.local_refl idle
    simp [sound.network, step, Network.subscribe, here]
  | some broker =>
    cases joined : broker.subscribe filter with
    | none =>
      apply sound.local_refl idle
      simp [sound.network, step, Network.subscribe, here, joined]
    | some joined' =>
      obtain ⟨stays, tells⟩ := Broker.subscribe_spec joined
      refine sound.local_set idle here ?_ stays tells
      simp [sound.network, step, Network.subscribe, here, joined]

theorem names_of_keeps {hub after : Hub} (keeps : hub.Keeps after) (stored : Nat → List Nat)
    (k : Nat) (d : Channel) (here : after.channels[k]? = some d) :
    stored k = [] ∨ ∃ c, hub.channels[k]? = some c ∧ c.name = d.name := by
  obtain ⟨c, before, same⟩ := keeps.before here
  exact .inr ⟨c, before, same.name.symm⟩

theorem Sound.shutdown (sound : chronicle.Sound hub brokers) :
    chronicle.Advances hub brokers .shutdown := by
  have keeps := hub.keeps_shutdown
  have wired (index : Nat) (broker : Broker) (here : brokers[index]? = some broker) :
      broker.Wired hub.shutdown := by
    apply (sound.wired index broker here).stays (.refl broker)
    intro k reader position channel _ found at?
    have closed : hub.shutdown.channels[k]? = some channel.close := by
      simp [Hub.shutdown, found]
    exact ⟨position, channel.close, closed, rfl, (hub.position?_shutdown k reader).trans at?⟩
  obtain ⟨stored, sound'⟩ := sound.quiet (sound.steps (step_shutdown hub brokers)) rfl
    keeps.written (sound.logs.keeps keeps) (names_of_keeps keeps _) wired sound.alone
  refine ⟨hub.shutdown, brokers, sound', Nat.le_refl _, ?_⟩
  intro index broker here
  refine .inl ⟨broker, here, ?_⟩
  apply passes_still rfl rfl rfl (.refl broker) (tells_none_refl broker)
  · rw [sound'.pending_eq here, sound.pending_eq here, stored]
    apply pending_congr (sound.wired index broker here) (.refl broker)
    intro k reader _
    exact hub.position?_shutdown k reader
  · intro runs
    contradiction

end Chronicle

end Fanout
