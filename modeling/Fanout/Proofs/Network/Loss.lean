import Fanout.Proofs.Network.Lag

/-! What becomes of the events that a broker publishes itself. As long as its loop reads the channel
that they are written to, or callers find that there is no loop, each event is delivered to a client
or counted as a drop or as lost by the loop. Between the end of the channel and the turn in which
the loop comes to it, an event is neither delivered nor counted. -/

namespace Fanout

open Network Broker

namespace Chronicle

variable {chronicle after : Chronicle} {hub : Hub} {brokers : List Broker} {step : Step}
  {index : Nat} {broker broker' : Broker} {source : Nat} {read : Option BusItem}
  {heard : Option Envelope}

/-! ## One event -/

variable {capacity n : Nat} {steps : List Step} {id : ClientId} {envelope : Envelope}

/-- A write for a client is still to come, or was offered to the client, or was lost by the loop of
its broker. -/
def Accounts (capacity : Nat) (steps : List Step) (n : Nat) (message : Message) (id : ClientId) :
    Prop :=
  n ∈ (run capacity steps).pending id.registry ∨
    (n, some message) ∈ (run capacity steps).offered id ∨
    (n, none) ∈ (run capacity steps).offered id ∨
    n ∈ (start capacity).skipped id.registry steps

theorem accounts_of_offered {message : Message}
    (offered : some message ∈ (run capacity steps).offering step id ∨
      none ∈ (run capacity steps).offering step id)
    (comes : n = (run capacity steps).source step) :
    Accounts capacity (steps ++ [step]) n message id := by
  rw [Accounts, run_concat, offered_advance, comes]
  refine .inr ?_
  rcases offered with taken | refused
  · exact .inl (List.mem_append_right _ (List.mem_map_of_mem taken))
  · exact .inr (.inl (List.mem_append_right _ (List.mem_map_of_mem refused)))

/-- What is accounted for remains so as long as the broker is not closed and the client is there to
be offered it. -/
theorem Accounts.concat {hub' : Hub} {client : Client}
    (accounts : Accounts capacity steps n envelope.data id)
    (passes : (run capacity steps).Passes step hub hub' id.registry broker broker')
    (meets : Client.Meets broker.registry.capacity
      ((run capacity steps).network.broadcast? id.registry step) (some client)
      ((run capacity steps).offering step id))
    (running : broker'.closed = false) {bytes : Bytes}
    (known : (run capacity (steps ++ [step])).content broker.channel n = some bytes)
    (decoded : Envelope.decode bytes = .ok envelope)
    (registered : client.registered = true) (accepts : client.accepts envelope.scope = true)
    (receiving : client.receiving = true) :
    Accounts capacity (steps ++ [step]) n envelope.data id := by
  rw [run_concat] at known
  -- What the client was offered and what the loop has lost is on record. Only a write that is still
  -- to come may change its place.
  rcases accounts with due | taken | refused | lost
  · rcases passes.flow.keeps running due known with pending | ⟨comes, heard⟩ | ⟨lost, read, lies⟩
    · rw [Accounts, run_concat]
      exact .inl pending
    · rw [heard, decoded] at meets
      exact accounts_of_offered (meets.offered registered accepts receiving) comes
    · refine .inr (.inr (.inr ?_))
      rw [skipped_concat, ← run, skips, read]
      exact List.mem_append_right _ lies
  · rw [Accounts, run_concat, offered_advance]
    exact .inr (.inl (List.mem_append_left _ taken))
  · rw [Accounts, run_concat, offered_advance]
    exact .inr (.inr (.inl (List.mem_append_left _ refused)))
  · rw [Accounts, skipped_concat]
    exact .inr (.inr (.inr (List.mem_append_left _ lost)))

section Publishing

variable {before : List Step} {event : Event Payload} {first : Broker} {joined : Client}
  (published : (run capacity before).network.brokers[id.registry]? = some first)
  (open' : first.closed = false) (sealed : Envelope.sealEvent event = .ok envelope)

include published open' sealed

theorem write?_published : (run capacity before).network.write? (.publish id.registry event)
    = some ⟨first.channel, some event, envelope.encode⟩ := by
  simp [write?, published, sealed, open', Except.toOption]

theorem content_published : (run capacity (before ++ [.publish id.registry event])).content
    first.channel ((run capacity before).count first.channel) = some envelope.encode := by
  rw [run_concat]
  exact content_write (write?_published published open' sealed)

theorem broadcast?_published : (run capacity before).network.broadcast? id.registry
    (.publish id.registry event) = if first.listening then none else some envelope := by
  obtain ⟨hub, brokers, sound⟩ := sound_run capacity before
  rw [sound.network, onHub_brokers] at published
  exact sound.broadcast?_publish published open' sealed

/-- What is published on a broker comes to its loop, unless callers find that there is none. -/
theorem accounts_published
    (comes : first.listening = true → first.Attached (run capacity before).network.hub)
    (there : first.registry.clients[id.serial]? = some joined)
    (registered : joined.registered = true) (accepts : joined.accepts envelope.scope = true)
    (receiving : joined.receiving = true) :
    Accounts capacity (before ++ [.publish id.registry event])
      ((run capacity before).count first.channel) envelope.data id := by
  have heard := broadcast?_published published open' sealed
  have known := content_published published open' sealed
  obtain ⟨hub, brokers, sound⟩ := sound_run capacity before
  obtain ⟨_, _, _, _, _, _, passes, meets⟩ :=
    sound.client (sound.advance (.publish id.registry event)) published there
  rw [run_concat] at known
  -- Where the broker does not broadcast the event itself, it is listening.
  have silent : (run capacity before).network.broadcast? id.registry
      (.publish id.registry event) = none → first.Attached (run capacity before).network.hub := by
    intro silent
    rw [heard, ite_eq_left_iff] at silent
    exact comes (by_contra fun down => by simpa using silent down)
  rcases passes.flow.arrives silent (Nat.le_refl _) known with pending | ⟨comes, told⟩
  · rw [Accounts, run_concat]
    exact .inl pending
  · rw [told, Envelope.decode_encode_of_sealEvent sealed] at meets
    exact accounts_of_offered (meets.offered registered accepts receiving) comes

/-- An event that comes to the loop is accounted for from its publish on. -/
theorem accounts_run
    (comes : first.listening = true → first.Attached (run capacity before).network.hub)
    (there : first.registry.clients[id.serial]? = some joined)
    (accepts : joined.accepts envelope.scope = true) (after : List Step) :
    ∃ b c, (run capacity (before ++ [.publish id.registry event] ++ after)).network.brokers[
        id.registry]? = some b ∧ b.registry.clients[id.serial]? = some c ∧
      (b.closed = false → c.registered = true → c.receiving = true →
        Accounts capacity (before ++ [.publish id.registry event] ++ after)
          ((run capacity before).count first.channel) envelope.data id) := by
  have decoded := Envelope.decode_encode_of_sealEvent sealed
  obtain ⟨hub, brokers, sound⟩ := sound_run capacity before
  obtain ⟨_, b, c, here, found, lasts, passes, _⟩ :=
    sound.client (sound.advance (.publish id.registry event)) published there
  rw [← run_concat] at here
  have all := client_induction (motive := fun steps b c => b.channel = first.channel ∧
    joined.Lasts c ∧ (run capacity steps).content first.channel
      ((run capacity before).count first.channel) = some envelope.encode ∧
    (b.closed = false → c.registered = true → c.receiving = true → Accounts capacity steps
      ((run capacity before).count first.channel) envelope.data id)) here found ?_ ?_ after
  · obtain ⟨b, c, here, found, _, _, _, accounts⟩ := all
    exact ⟨b, c, here, found, accounts⟩
  · refine ⟨passes.channel, lasts, content_published published open' sealed, ?_⟩
    intro _ registered receiving
    exact accounts_published published open' sealed comes there (lasts.registered registered)
      accepts (lasts.receiving receiving)
  · rintro steps step hub hub' b b' c c' passes meets lasts' ⟨channel, lasts, known, accounts⟩
    have known' : (run capacity (steps ++ [step])).content first.channel
        ((run capacity before).count first.channel) = some envelope.encode := by
      rw [run_concat]
      exact content_of_some known
    refine ⟨passes.channel.trans channel, lasts.trans lasts', known', ?_⟩
    intro running registered receiving
    have registered' := lasts'.registered registered
    have receiving' := lasts'.receiving receiving
    have accepts' : c.accepts envelope.scope = true := (lasts.accepts _).trans accepts
    have still := accounts (passes.running running) registered' receiving'
    exact still.concat passes meets running (channel ▸ known') decoded registered' accepts'
      receiving'

end Publishing

/-! ## An event that vanishes -/

/-- A write that was made is not to come to a broker, and the broker neither offered it to a client
nor found it lost. -/
structure Vanishes (capacity : Nat) (steps : List Step) (n : Nat) (channel : String)
    (id : ClientId) : Prop where
  made : n < (run capacity steps).count channel
  pending : n ∉ (run capacity steps).pending id.registry
  offered : ∀ message?, (n, message?) ∉ (run capacity steps).offered id
  skipped : n ∉ (start capacity).skipped id.registry steps

/-- What a loop does not come to it never comes to. -/
theorem Flow.avoids (flow : Flow chronicle after index broker broker' source read heard)
    (made : n < chronicle.count broker.channel) (gone : n ∉ chronicle.pending index) :
    n < after.count broker.channel ∧ n ∉ after.pending index ∧
      (heard.isSome = true → n ≠ source) := by
  cases flow with
  | still same counted =>
    rw [same, counted]
    exact ⟨made, gone, by simp⟩
  | missed same counted =>
    rw [same, counted]
    exact ⟨Nat.lt_succ_of_lt made, gone, by simp⟩
  | stored grown counted =>
    rw [grown, counted, List.mem_append, List.mem_singleton]
    exact ⟨Nat.lt_succ_of_lt made, fun new => new.elim gone (Nat.ne_of_lt made), by simp⟩
  | direct _ empty counted =>
    rw [empty, counted]
    exact ⟨Nat.lt_succ_of_lt made, List.not_mem_nil, fun _ => Nat.ne_of_lt made⟩
  | message next counted =>
    rw [next, List.mem_cons, not_or] at gone
    rw [counted]
    exact ⟨made, gone.2, fun _ => gone.1⟩
  | lagged left counted =>
    rw [left, counted]
    exact ⟨made, fun later => gone (List.mem_of_mem_drop later), by simp⟩
  | ended _ empty counted | closed empty counted =>
    rw [empty, counted]
    exact ⟨made, List.not_mem_nil, by simp⟩

theorem Vanishes.concat {hub' : Hub} {client : Client} {channel : String}
    (vanishes : Vanishes capacity steps n channel id)
    (passes : (run capacity steps).Passes step hub hub' id.registry broker broker')
    (meets : Client.Meets broker.registry.capacity
      ((run capacity steps).network.broadcast? id.registry step) (some client)
      ((run capacity steps).offering step id)) (same : broker.channel = channel) :
    Vanishes capacity (steps ++ [step]) n channel id := by
  subst same
  obtain ⟨made, pending, apart⟩ := passes.flow.avoids vanishes.made vanishes.pending
  constructor
  case made =>
    rw [run_concat]
    exact made
  case pending =>
    rw [run_concat]
    exact pending
  case offered =>
    intro message?
    rw [run_concat, offered_advance, List.mem_append, List.mem_map]
    rintro (old | ⟨_, new, comes⟩)
    · exact vanishes.offered message? old
    · cases comes
      exact apart (meets.room_of_mem new).1 rfl
  case skipped =>
    rw [skipped_concat, ← run, List.mem_append]
    rintro (old | new)
    · exact vanishes.skipped old
    · exact vanishes.pending (List.mem_of_mem_take new)

section Publishing

variable {before : List Step} {event : Event Payload} {first : Broker} {joined : Client}
  (published : (run capacity before).network.brokers[id.registry]? = some first)
  (open' : first.closed = false) (sealed : Envelope.sealEvent event = .ok envelope)
  (listening : first.listening = true)
  (detached : ¬ first.Attached (run capacity before).network.hub)

include published open' sealed listening detached

/-- What is published on a broker vanishes if the channel of its loop has ended and callers still
find the broker listening. -/
theorem vanishes_published : Vanishes capacity (before ++ [.publish id.registry event])
    ((run capacity before).count first.channel) first.channel id := by
  have written := write?_published published open' sealed
  have heard := broadcast?_published published open' sealed
  rw [if_pos listening] at heard
  have offered := (pairwise_snoc.mp ((routed_run capacity before).ordered id first published)).2
  have skipped := (pairwise_snoc.mp (skipped_ordered published)).2
  obtain ⟨hub, brokers, sound⟩ := sound_run capacity before
  have pending : (run capacity (before ++ [.publish id.registry event])).pending id.registry
      = (run capacity before).pending id.registry := by
    rw [sound.hub_eq] at detached
    rw [sound.network, onHub_brokers] at published
    have steps := sound.steps
      (publish_listening published (sound.wired _ _ published).bus open' listening sealed)
    have sound' := sound.wrote written steps (allStay_refl brokers) fun _ same => by
      cases same
      exact ⟨envelope, sealed, rfl⟩
    rw [run_concat]
    -- The write goes to another channel of the same name, which the loop does not read.
    rcases sound.pending_write written steps sound' published published (.refl first) with
      ⟨_, attached, _⟩ | ⟨_, same⟩
    · exact absurd attached detached
    · exact same
  constructor
  case made =>
    rw [run_concat, count_write written, if_pos rfl]
    exact Nat.lt_succ_self _
  case pending =>
    rw [pending]
    exact fun due => Nat.lt_irrefl _ (offered _ (List.mem_append_right _ due))
  case offered =>
    intro message? member
    rw [run_concat, offered_advance, List.mem_append, List.mem_map] at member
    rcases member with old | ⟨_, new, _⟩
    · exact Nat.lt_irrefl _ (offered _ (List.mem_append_left _ (List.mem_map_of_mem old)))
    · rcases sound.reception (sound.advance (.publish id.registry event)) id with
        ⟨_, _, _, _, _, _, meets⟩ | ⟨_, _, offering, _⟩
      · rw [heard] at meets
        rw [meets.nil_of_silent] at new
        contradiction
      · rw [offering] at new
        contradiction
  case skipped =>
    rw [skipped_concat, ← run, List.mem_append]
    rintro (old | new)
    · exact Nat.lt_irrefl _ (skipped _ (List.mem_append_left _ old))
    · exact List.not_mem_nil new

theorem vanishes_run (there : first.registry.clients[id.serial]? = some joined)
    (after : List Step) : Vanishes capacity (before ++ [.publish id.registry event] ++ after)
      ((run capacity before).count first.channel) first.channel id := by
  obtain ⟨hub, brokers, sound⟩ := sound_run capacity before
  obtain ⟨_, b, c, here, found, _, passes, _⟩ :=
    sound.client (sound.advance (.publish id.registry event)) published there
  rw [← run_concat] at here
  have all := client_induction (motive := fun steps b c => b.channel = first.channel ∧
    Vanishes capacity steps ((run capacity before).count first.channel) first.channel id) here found
    ⟨passes.channel, vanishes_published published open' sealed listening detached⟩ ?_ after
  · obtain ⟨_, _, _, _, _, vanishes⟩ := all
    exact vanishes
  · rintro steps step hub hub' b b' c c' passes meets _ ⟨channel, vanishes⟩
    exact ⟨passes.channel.trans channel, vanishes.concat passes meets channel⟩

end Publishing

/-- A write was put into the queue of a client once, or was counted once as a drop there, or was
counted once as lost by the loop of its broker. -/
def Accounted (capacity : Nat) (steps : List Step) (n : Nat) (message : Message) (id : ClientId) :
    Prop :=
  ((run capacity steps).enqueued id).filter (·.1 = n) = [(n, message)] ∨
    ((run capacity steps).refused id).count n = 1 ∨
    ((start capacity).skipped id.registry steps).count n = 1

theorem Vanishes.not_accounted {message : Message} {channel : String}
    (vanishes : Vanishes capacity steps n channel id) :
    ¬ Accounted capacity steps n message id := by
  rintro (enqueued | refused | skipped)
  · have member := List.mem_of_mem_filter (enqueued ▸ List.mem_singleton_self _)
    exact vanishes.offered _ (mem_enqueued.mp member)
  · have member := List.count_pos_iff.mp (Nat.lt_of_lt_of_eq Nat.zero_lt_one refused.symm)
    exact vanishes.offered _ (mem_refused.mp member)
  · have member := List.count_pos_iff.mp (Nat.lt_of_lt_of_eq Nat.zero_lt_one skipped.symm)
    exact vanishes.skipped member

/-- When the loop has nothing left to come to, what is accounted for was delivered or counted. -/
theorem Accounts.accounted {message : Message} (accounts : Accounts capacity steps n message id)
    (here : (run capacity steps).network.brokers[id.registry]? = some broker)
    (idle : ∀ stream, broker.inbound.stream? = some stream →
      (run capacity steps).network.fabric.unread stream = 0) :
    Accounted capacity steps n message id := by
  obtain ⟨hub, brokers, sound⟩ := sound_run capacity steps
  have offered := (routed_run capacity steps).offered_ordered id
  have lost := (List.pairwise_append.mp (pairwise_snoc.mp (skipped_ordered here)).1).1
  rcases accounts with pending | taken | refused | skipped
  · rw [sound.pending_of_idle here idle] at pending
    contradiction
  · exact .inl (enqueued_once offered taken).1
  · exact .inr (.inl (refused_once offered refused).2)
  · exact .inr (.inr (List.count_eq_one_of_mem (lost.imp Nat.ne_of_lt) skipped))

/-- Of an event that is published on a running broker, a client that it is for has got one copy when
the loop of the broker has read all there is or has ended, or the event was counted as a drop at the
client, or it was counted as lost by the loop; but if the channel that the loop reads had ended and
callers still found the broker listening, then it is none of these. -/
theorem accounted_iff (capacity : Nat) {before after : List Step} {id : ClientId}
    {event : Event Payload} {message : Message} {first broker : Broker} {joined client : Client}
    (published : (run capacity before).network.brokers[id.registry]? = some first)
    (open' : first.closed = false) (written : event.write = .ok message)
    (there : first.registry.clients[id.serial]? = some joined)
    (accepts : joined.filter = "" ∨ joined.filter = event.scope)
    (here : (run capacity (before ++ .publish id.registry event :: after)).network.brokers[
      id.registry]? = some broker)
    (running : broker.closed = false)
    (idle : ∀ stream, broker.inbound.stream? = some stream →
      (run capacity (before ++ .publish id.registry event :: after)).network.fabric.unread stream
        = 0)
    (found : broker.registry.clients[id.serial]? = some client)
    (registered : client.registered = true) (receiving : client.receiving = true) :
    (Accounted capacity (before ++ .publish id.registry event :: after)
        ((run capacity before).count first.channel) message id ↔
      (first.listening = true → first.Attached (run capacity before).network.hub)) ∧
    broker.stats.droppedFull
      = .ofNat ((run capacity (before ++ .publish id.registry event :: after)).refusals id.registry
        broker.registry.clients.length) ∧
    broker.stats.busLagged = .ofNat ((start capacity).skipped id.registry
      (before ++ .publish id.registry event :: after)).length := by
  have sealed := Envelope.sealEvent_of_write written
  refine ⟨⟨fun accounted listening => ?_, fun comes => ?_⟩,
    tallied_run capacity _ id.registry broker here, busLagged_run capacity _ here⟩
  · by_contra detached
    have vanishes := vanishes_run published open' sealed listening detached there after
    rw [List.append_assoc, List.singleton_append] at vanishes
    exact vanishes.not_accounted accounted
  · obtain ⟨b, c, here', found', accounts⟩ := accounts_run published open' sealed comes there
      (by simpa [Client.accepts] using accepts) after
    rw [List.append_assoc, List.singleton_append] at here' accounts
    cases here.symm.trans here'
    cases found.symm.trans found'
    exact (accounts running registered receiving).accounted here idle

/-- A broker and a client, to which what is published is delivered. -/
theorem accounted_iff_publishing :
    ∃ (first broker : Broker) (joined client : Client) (message : Message),
      (run 4 joining).network.brokers[0]? = some first ∧ first.closed = false ∧
      (Event.bare "created" "a").write = .ok message ∧ first.registry.clients[0]? = some joined ∧
      (joined.filter = "" ∨ joined.filter = "a") ∧
      (run 4 (joining ++ publishing)).network.brokers[0]? = some broker ∧ broker.closed = false ∧
      (∀ stream, broker.inbound.stream? = some stream →
        (run 4 (joining ++ publishing)).network.fabric.unread stream = 0) ∧
      broker.registry.clients[0]? = some client ∧ client.registered = true ∧
      client.receiving = true ∧
      Accounted 4 (joining ++ publishing) ((run 4 joining).count first.channel) message ⟨0, 0⟩ := by
  have published := congrArg (·.brokers[0]?) network_joining
  have here := congrArg (·.brokers[0]?) network_publishing
  have written := (Envelope.write_of_sealEvent sealed_published).1
  have idle : ∀ stream, Inbound.stream? (.running (.hub 0 0 0)) = some stream →
      (run 4 (joining ++ publishing)).network.fabric.unread stream = 0 := by
    intro stream same
    cases same
    rw [network_publishing]
    rfl
  have attached : Broker.Attached (run 4 joining).network.hub
      ⟨0, "room", ⟨0, 1, [.opened "a"], .zero⟩, .waiting (.hub 0 0 0), true, false⟩ := by
    rw [network_joining]
    exact ⟨0, 0, _, rfl, rfl, rfl⟩
  have accounted := (@accounted_iff 4 joining [.turn 0] ⟨0, 0⟩ (.bare "created" "a") _ _ _ _ _
    published rfl written rfl (.inr rfl) here rfl idle rfl rfl rfl).1.mpr fun _ => attached
  exact ⟨_, _, _, _, _, published, rfl, written, rfl, .inr rfl, here, rfl, idle, rfl, rfl, rfl,
    accounted⟩

/-- The channel ends that the loop of the broker reads. -/
def ending : List Step := joining ++ [.shutdown]

theorem network_ending : (run 4 ending).network
    = .onHub ⟨4, [⟨"room", 4, 0, [], [some 0], false⟩]⟩
      [⟨0, "room", ⟨0, 1, [.opened "a"], .zero⟩, .waiting (.hub 0 0 0), true, false⟩] := by
  rw [ending, run_concat, advance_network, network_joining]
  rfl

/-- The event goes to a new channel, and then the loop comes to the end of the old one. -/
theorem network_vanished : (run 4 (ending ++ publishing)).network
    = .onHub ⟨4, [⟨"room", 4, 0, [], [none], false⟩,
        ⟨"room", Nat.nextPowerOfTwo 4, 0, [], [], true⟩]⟩
      [⟨0, "room", ⟨0, 1, [.opened "a"], .zero⟩, .ended, false, false⟩] := by
  have stepped : (run 4 (ending ++ publishing)).network
      = ((run 4 ending).network.step (.publish 0 (.bare "created" "a"))).step (.turn 0) := rfl
  rw [stepped, network_ending, publish_listening rfl rfl rfl rfl sealed_published]
  rfl

/-- A broker publishes an event for a client after the end of its channel and before its loop has
come to the end. The client does not get the event, and no counter tells of it. -/
theorem not_accounted_ending :
    ∃ (first broker : Broker) (joined client : Client) (message : Message),
      (run 4 ending).network.brokers[0]? = some first ∧ first.closed = false ∧
      (Event.bare "created" "a").write = .ok message ∧ first.registry.clients[0]? = some joined ∧
      (joined.filter = "" ∨ joined.filter = "a") ∧
      (run 4 (ending ++ publishing)).network.brokers[0]? = some broker ∧ broker.closed = false ∧
      (∀ stream, broker.inbound.stream? = some stream →
        (run 4 (ending ++ publishing)).network.fabric.unread stream = 0) ∧
      broker.registry.clients[0]? = some client ∧ client.registered = true ∧
      client.receiving = true ∧
      ¬ Accounted 4 (ending ++ publishing) ((run 4 ending).count first.channel) message ⟨0, 0⟩ ∧
      broker.stats = .zero := by
  have published := congrArg (·.brokers[0]?) network_ending
  have here := congrArg (·.brokers[0]?) network_vanished
  have written := (Envelope.write_of_sealEvent sealed_published).1
  have detached : ¬ Broker.Attached (run 4 ending).network.hub
      ⟨0, "room", ⟨0, 1, [.opened "a"], .zero⟩, .waiting (.hub 0 0 0), true, false⟩ := by
    rw [network_ending]
    rintro ⟨k, reader, channel, reads, found, isOpen⟩
    cases reads
    cases found
    exact Bool.false_ne_true isOpen
  have vanishes := @vanishes_run 4 ⟨0, 0⟩ _ ending _ _ _ published rfl sealed_published rfl detached
    rfl [.turn 0]
  have idle : ∀ stream, Inbound.stream? .ended = some stream →
      (run 4 (ending ++ publishing)).network.fabric.unread stream = 0 := by
    simp [Inbound.stream?]
  exact ⟨_, _, _, _, _, published, rfl, written, rfl, .inr rfl, here, rfl, idle, rfl, rfl, rfl,
    vanishes.not_accounted, rfl⟩

end Chronicle

end Fanout
