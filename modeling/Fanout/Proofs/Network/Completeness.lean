import Fanout.Proofs.Network.Order

/-! Nothing is missed. As long as no channel ends and no loop falls behind, each write is still to
be come to by a broker, or was offered to every client of the broker that it is for. A broker that
has nothing left to read has thus offered each client every write for it, once. -/

namespace Fanout

open Network Broker

namespace Client

variable {capacity : Nat} {heard : Option Envelope} {client : Client} {envelope : Envelope}
  {offering : List (Option Message)}

/-- A client that a message is for is offered the message. -/
theorem Meets.offered (meets : Meets capacity (some envelope) (some client) offering)
    (registered : client.registered = true) (accepts : client.accepts envelope.scope = true)
    (receiving : client.receiving = true) :
    some envelope.data ∈ offering ∨ none ∈ offering := by
  cases meets with
  | takes => exact .inl (List.mem_singleton.mpr rfl)
  | refuses => exact .inr (List.mem_singleton.mpr rfl)
  | passes turned =>
    obtain ⟨notTaken, notRefused⟩ := turned envelope client rfl rfl
    rcases takes_or_refuses registered accepts receiving with takes | refuses
    · exact absurd takes notTaken
    · exact absurd refuses notRefused

theorem Meets.nil_of_silent {client? : Option Client}
    (meets : Meets capacity none client? offering) : offering = [] := by
  cases meets
  rfl

/-- A client that is offered a message has room for it, or is offered nothing instead. -/
theorem Meets.room_of_mem {client? : Option Client} {message? : Option Message}
    (meets : Meets capacity heard client? offering) (member : message? ∈ offering) :
    heard.isSome = true ∧ ∃ client, client? = some client ∧
      (message?.isSome = true ↔ client.queue.length < capacity) := by
  cases meets with
  | @takes _ client takes =>
    cases List.mem_singleton.mp member
    exact ⟨rfl, client, rfl, iff_of_true rfl takes.2.2.2⟩
  | @refuses _ client refuses =>
    cases List.mem_singleton.mp member
    exact ⟨rfl, client, rfl, iff_of_false Bool.false_ne_true (Nat.not_lt_of_le refuses.2.2.2)⟩
  | passes => contradiction

theorem Meets.count_none {client? : Option Client}
    (meets : Meets capacity (some envelope) client? offering) :
    offering.countP (·.isNone)
      = if client?.any fun client => client.Refuses capacity envelope.scope then 1 else 0 := by
  cases meets with
  | takes takes => simp [takes.not_refuses]
  | refuses refuses => simp [refuses]
  | passes turned =>
    cases client? with
    | none => rfl
    | some client => simp [(turned envelope client rfl rfl).2]

end Client

namespace Chronicle

variable {chronicle after : Chronicle} {hub : Hub} {brokers : List Broker} {step : Step}
  {index : Nat} {broker broker' : Broker} {source : Nat} {read : Option BusItem}
  {heard : Option Envelope}

/-! ## Open channels -/

/-- What is written to the channel of any broker that is not closed reaches its loop. -/
def Connected (chronicle : Chronicle) : Prop :=
  ∀ (index : Nat) (broker : Broker), chronicle.network.brokers[index]? = some broker →
    broker.closed = false → broker.Attached chronicle.network.hub

theorem Connected.advance (connected : chronicle.Connected)
    (sound : chronicle.Sound hub brokers) (advances : chronicle.Advances hub brokers step)
    (runs : step ≠ .shutdown) : (chronicle.advance step).Connected := by
  obtain ⟨after, brokers', sound', _, each⟩ := advances
  intro index broker' here running
  rw [sound'.hub_eq]
  rw [sound'.network, onHub_brokers] at here
  rcases each index broker' here with ⟨broker, before, passes⟩ | ⟨_, _, _, attached, _⟩
  · rw [Connected, sound.network] at connected
    have attached := connected index broker before (passes.running running)
    rcases passes.attached runs attached with closed | attached
    · rw [closed] at running
      contradiction
    · exact attached
  · exact attached

/-! ## What is still to come -/

/-- A write that the loop has to come to is to come to after the step as well, unless the step
broadcasts it or the loop has fallen behind it. -/
theorem Flow.keeps (flow : Flow chronicle after index broker broker' source read heard)
    (running : broker'.closed = false) {n : Nat} {bytes : Bytes} (due : n ∈ chronicle.pending index)
    (known : after.content broker.channel n = some bytes) :
    n ∈ after.pending index ∨ (n = source ∧ heard = (Envelope.decode bytes).toOption) ∨
      ∃ lost, read = some (.lagged lost) ∧ n ∈ (chronicle.pending index).take lost := by
  cases flow with
  | still same | missed same => exact .inl (same ▸ due)
  | stored grown =>
    rw [grown]
    exact .inl (List.mem_append_left _ due)
  -- A loop that is down or ends has nothing left to come to.
  | direct empty | ended empty => simp [empty] at due
  | message next _ found =>
    rw [next] at due
    rcases List.mem_cons.mp due with rfl | later
    · cases known.symm.trans found
      exact .inr (.inl ⟨rfl, rfl⟩)
    · exact .inl later
  | @lagged _ lost left =>
    rw [← List.take_append_drop lost (chronicle.pending index), List.mem_append] at due
    rcases due with skipped | later
    · exact .inr (.inr ⟨lost, rfl, skipped⟩)
    · exact .inl (left ▸ later)
  | closed _ _ closed =>
    rw [closed] at running
    contradiction

/-- A new write is to come to after the step that makes it, unless the step broadcasts it. -/
theorem Flow.arrives (flow : Flow chronicle after index broker broker' source read heard)
    (comes : heard = none → broker.Attached chronicle.network.hub) {n : Nat} {bytes : Bytes}
    (new : chronicle.count broker.channel ≤ n)
    (known : after.content broker.channel n = some bytes) :
    n ∈ after.pending index ∨ (n = source ∧ heard = (Envelope.decode bytes).toOption) := by
  have bound := lt_count_of_content known
  cases flow with
  | still _ counted | lagged _ counted | message _ counted | ended _ _ counted
  | closed _ counted =>
    rw [counted] at bound
    omega
  | missed _ _ detached => exact absurd (comes rfl) detached
  | stored grown counted =>
    have last : n = chronicle.count broker.channel := by omega
    rw [grown, last]
    exact .inl (List.mem_append_right _ (List.mem_singleton.mpr rfl))
  | direct _ _ counted written decoded =>
    have last : n = chronicle.count broker.channel := by omega
    subst last
    cases known.symm.trans written
    exact .inr ⟨rfl, by rw [decoded]; rfl⟩

/-- As long as the loop does not fall behind, a write is to come to after the step unless the step
broadcasts it. -/
theorem Flow.reaches (flow : Flow chronicle after index broker broker' source read heard)
    (running : broker'.closed = false) (attached : broker.Attached chronicle.network.hub)
    (kept : ∀ lost, read ≠ some (.lagged lost)) {n : Nat} {bytes : Bytes}
    (due : n ∈ chronicle.pending index ∨ chronicle.count broker.channel ≤ n)
    (known : after.content broker.channel n = some bytes) :
    n ∈ after.pending index ∨ (n = source ∧ heard = (Envelope.decode bytes).toOption) := by
  rcases due with due | new
  · rcases flow.keeps running due known with pending | broadcast | ⟨lost, reads, _⟩
    · exact .inl pending
    · exact .inr broadcast
    · exact absurd reads (kept lost)
  · exact flow.arrives (fun _ => attached) new known

/-- Writes from this number on that are for the client have been offered to it, or the loop of its
broker has still to come to them. -/
def Serves (chronicle : Chronicle) (since : Nat) (id : ClientId) (broker : Broker)
    (client : Client) : Prop :=
  broker.closed = false → (∀ lost, .lagged lost ∉ chronicle.items id.registry) →
  client.registered = true → client.receiving = true →
  ∀ n bytes envelope, since ≤ n → chronicle.content broker.channel n = some bytes →
    Envelope.decode bytes = .ok envelope → client.accepts envelope.scope = true →
    n ∈ chronicle.pending id.registry ∨ (n, some envelope.data) ∈ chronicle.offered id ∨
      (n, none) ∈ chronicle.offered id

theorem Serves.advance {since : Nat} {id : ClientId} {client client' : Client} {after : Hub}
    (serves : chronicle.Serves since id broker client)
    (attached : broker.closed = false → broker.Attached chronicle.network.hub)
    (passes : chronicle.Passes step hub after id.registry broker broker')
    (meets : Client.Meets broker.registry.capacity
      (chronicle.network.broadcast? id.registry step) (some client) (chronicle.offering step id))
    (lasts : client.Lasts client') :
    (chronicle.advance step).Serves since id broker' client' := by
  intro running kept registered receiving n bytes envelope late known decoded accepts
  rw [passes.channel] at known
  have open' := passes.running running
  have accepts' : client.accepts envelope.scope = true := by
    rw [← lasts.accepts]
    exact accepts
  have kept' : ∀ lost, .lagged lost ∉ chronicle.items id.registry := fun lost member =>
    kept lost (List.mem_append_left _ member)
  have keptNow : ∀ lost, chronicle.network.item? id.registry step ≠ some (.lagged lost) := by
    intro lost reads
    refine kept lost (List.mem_append_right _ ?_)
    rw [reads]
    exact List.mem_singleton.mpr rfl
  have due : (n ∈ chronicle.pending id.registry ∨ chronicle.count broker.channel ≤ n) ∨
      (n, some envelope.data) ∈ chronicle.offered id ∨ (n, none) ∈ chronicle.offered id := by
    rcases Nat.lt_or_ge n (chronicle.count broker.channel) with old | new
    · rw [content_advance old] at known
      exact (serves open' kept' (lasts.registered registered) (lasts.receiving receiving) n bytes
        envelope late known decoded accepts').imp_left .inl
    · exact .inl (.inr new)
  rw [offered_advance]
  rcases due with due | offered
  · rcases passes.flow.reaches running (attached open') keptNow due known with
      pending | ⟨rfl, heard⟩
    · exact .inl pending
    · rw [heard, decoded] at meets
      refine .inr ?_
      exact (meets.offered (lasts.registered registered) accepts' (lasts.receiving receiving)).imp
        (fun taken => List.mem_append_right _ (List.mem_map_of_mem taken))
        (fun refused => List.mem_append_right _ (List.mem_map_of_mem refused))
  · exact .inr (offered.imp (List.mem_append_left _) (List.mem_append_left _))

theorem connected_run (capacity : Nat) {steps : List Step} (runs : .shutdown ∉ steps) :
    (run capacity steps).Connected := by
  refine run_induction capacity [] steps ?_ fun _ _ _ step member sound advances connected => ?_
  · simp [run, start, Connected]
  · exact connected.advance sound advances fun same => runs (same ▸ member)

/-- From where a client is there on, it is served until the bus is shut down. -/
theorem serves_run (capacity : Nat) {before after : List Step} (runs : .shutdown ∉ before ++ after)
    {id : ClientId} {joined client : Client} {broker : Broker}
    (there : (run capacity before).network.client? id = some joined)
    (here : (run capacity (before ++ after)).network.brokers[id.registry]? = some broker)
    (found : broker.registry.clients[id.serial]? = some client) :
    (run capacity (before ++ after)).Serves ((run capacity before).count broker.channel) id broker
      client := by
  obtain ⟨first, here₀, found₀⟩ := Option.bind_eq_some_iff.mp there
  have served : ∃ b c, (run capacity (before ++ after)).network.brokers[id.registry]? = some b ∧
      b.registry.clients[id.serial]? = some c ∧ b.channel = first.channel ∧
      (run capacity (before ++ after)).Serves ((run capacity before).count first.channel) id b c ∧
      (run capacity (before ++ after)).Connected := by
    refine run_induction (motive := fun chronicle => ∃ b c,
      chronicle.network.brokers[id.registry]? = some b ∧ b.registry.clients[id.serial]? = some c ∧
      b.channel = first.channel ∧ chronicle.Serves _ id b c ∧ chronicle.Connected)
      capacity before after ?_ fun chronicle hub brokers step member sound advances served => ?_
    · refine ⟨first, joined, here₀, found₀, rfl, ?_, connected_run capacity fun member =>
        runs (List.mem_append_left _ member)⟩
      intro _ _ _ _ n bytes _ late known
      exact absurd (lt_count_of_content known) (Nat.not_lt_of_le late)
    · obtain ⟨b, c, here, found, channel, serves, connected⟩ := served
      have runsOn : step ≠ .shutdown := fun same => runs (List.mem_append_right _ (same ▸ member))
      obtain ⟨_, d, c', there', found', lasts, passes, meets⟩ :=
        sound.client advances here found
      exact ⟨d, c', there', found', passes.channel.trans channel,
        serves.advance (connected _ b here) passes meets lasts,
        connected.advance sound advances runsOn⟩
  obtain ⟨b, c, here', found', channel, serves, _⟩ := served
  cases here.symm.trans here'
  cases found.symm.trans found'
  rw [channel]
  exact serves

/-! ## Drops -/

/-- How many drops there were at the clients of a broker, of which there are so many. -/
def refusals (chronicle : Chronicle) (index clients : Nat) : Nat :=
  ((List.range clients).map fun serial => (chronicle.refused ⟨index, serial⟩).length).sum

theorem length_refused_advance (chronicle : Chronicle) (step : Step) (id : ClientId) :
    ((chronicle.advance step).refused id).length
      = (chronicle.refused id).length + (chronicle.offering step id).countP (·.isNone) := by
  simp only [refused, offered_advance, List.filterMap_append, List.length_append,
    List.filterMap_map]
  congr 1
  induction chronicle.offering step id with
  | nil => rfl
  | cons message? rest counted =>
    cases message? <;> simpa using counted

theorem refusals_of_le {index few many : Nat} (le : few ≤ many)
    (none : ∀ serial, few ≤ serial → chronicle.refused ⟨index, serial⟩ = []) :
    chronicle.refusals index many = chronicle.refusals index few := by
  induction many, le using Nat.le_induction with
  | base => rfl
  | succ many le same =>
    rw [refusals, List.range_succ, List.map_append, List.sum_append, ← refusals, same]
    simp [none many le]

/-- Entries are counted by their places. -/
theorem sum_range_countP {α : Type} (p : α → Bool) (xs : List α) :
    ((List.range xs.length).map fun i => if (xs[i]?).any p then 1 else 0).sum = xs.countP p := by
  induction xs using List.reverseRecOn with
  | nil => rfl
  | append_singleton xs x counted =>
    rw [List.length_append, List.length_singleton, List.range_succ, List.map_append,
      List.sum_append, List.countP_append, ← counted]
    congr 1
    · refine congrArg List.sum (List.map_congr_left fun i member => ?_)
      rw [List.getElem?_append_left (List.mem_range.mp member)]
    · simp [List.countP_singleton]

/-- The counter of drops is the number of all drops at the clients of the broker. -/
def Tallied (chronicle : Chronicle) : Prop :=
  ∀ (index : Nat) (broker : Broker), chronicle.network.brokers[index]? = some broker →
    broker.stats.droppedFull = .ofNat (chronicle.refusals index broker.registry.clients.length)

theorem Tallied.advance (tallied : chronicle.Tallied) (routed : chronicle.Routed)
    (sound : chronicle.Sound hub brokers) (advances : chronicle.Advances hub brokers step) :
    (chronicle.advance step).Tallied := by
  obtain ⟨after, brokers', sound', _, each⟩ := advances
  intro index broker' there
  have here' := there
  rw [sound'.network, onHub_brokers] at here'
  rcases each index broker' here' with ⟨broker, here, passes⟩ | ⟨_, empty, zero, _⟩
  · have before : chronicle.network.brokers[index]? = some broker := by
      rw [sound.network, onHub_brokers, here]
    have counted := tallied index broker before
    have meets (serial : Nat) := (passes.meets sound sound' here here' serial).1
    have tells := passes.tells
    have beyond (serial : Nat) (outside : broker.registry.clients.length ≤ serial) :
        chronicle.refused ⟨index, serial⟩ = [] := by
      have gone := List.getElem?_eq_none outside
      rw [refused, routed.nobody, List.filterMap_nil]
      rw [client?, before, Option.bind_some, gone]
    generalize chronicle.network.broadcast? index step = heard at tells meets
    cases heard with
    | none =>
      have settles : broker.registry.Settles broker'.registry := tells
      have same (serial : Nat) : ((chronicle.advance step).refused ⟨index, serial⟩).length
          = (chronicle.refused ⟨index, serial⟩).length := by
        rw [length_refused_advance, (meets serial).nil_of_silent]
        rfl
      rw [Broker.stats, settles.droppedFull, ← Broker.stats, counted,
        ← refusals_of_le settles.length beyond]
      simp only [refusals, same]
    | some envelope =>
      have hears : broker.registry.Hears envelope.data envelope.scope broker'.registry := tells
      have grown (serial : Nat) := length_refused_advance chronicle step ⟨index, serial⟩
      have refused (serial : Nat) := (meets serial).count_none
      rw [Broker.stats, hears.droppedFull, ← Broker.stats, counted, hears.clients,
        List.length_map, ← UInt64.ofNat_add]
      simp only [refusals, grown, refused, List.sum_map_add, sum_range_countP, Registry.refusals]
  · rw [Broker.stats, zero, empty]
    rfl

theorem tallied_run (capacity : Nat) (steps : List Step) : (run capacity steps).Tallied := by
  have both : (run capacity steps).Tallied ∧ (run capacity steps).Routed := by
    refine run_induction (motive := fun chronicle => chronicle.Tallied ∧ chronicle.Routed) capacity
      [] steps ⟨?_, routed_start capacity⟩ fun _ _ _ _ _ sound advances both => ?_
    · simp [run, start, Tallied]
    · exact ⟨both.1.advance both.2 sound advances, both.2.advance sound advances⟩
  exact both.1

/-! ## Exactly once -/

theorem Sound.pending_of_idle (sound : chronicle.Sound hub brokers)
    (here : chronicle.network.brokers[index]? = some broker)
    (idle : ∀ stream, broker.inbound.stream? = some stream →
      chronicle.network.fabric.unread stream = 0) : chronicle.pending index = [] := by
  rw [sound.network, onHub_brokers] at here
  rw [sound.pending_eq here]
  cases stream : broker.inbound.stream? with
  | none => exact pending_of_none stream
  | some found =>
    obtain ⟨k, reader, position, c, rfl, found, _, at?⟩ :=
      (sound.wired index broker here).stream found stream
    have reached : c.position? reader = some position := by
      simpa only [Hub.position?, found, Option.bind_some] using at?
    have unread : c.written - position = 0 := by
      have unread := idle _ stream
      simpa [sound.network, onHub, Fabric.unread, found, Channel.unread, reached] using unread
    rw [pending_of_stream stream at?]
    refine List.drop_eq_nil_of_le ?_
    rw [← (sound.logs.holds k c found).written]
    exact Nat.le_of_sub_eq_zero unread

theorem mem_refused {chronicle : Chronicle} {id : ClientId} {n : Nat} :
    n ∈ chronicle.refused id ↔ (n, none) ∈ chronicle.offered id := by
  simp only [refused, List.mem_filterMap, Option.ite_none_right_eq_some, Option.some.injEq,
    Option.isNone_iff_eq_none]
  constructor
  · rintro ⟨⟨_, _⟩, member, rfl, rfl⟩
    exact member
  · exact fun member => ⟨_, member, rfl, rfl⟩

theorem refused_sublist (chronicle : Chronicle) (id : ClientId) :
    (chronicle.refused id).Sublist ((chronicle.offered id).map (·.1)) := by
  unfold refused
  induction chronicle.offered id with
  | nil => exact .refl _
  | cons offer offers within =>
    obtain ⟨n, message?⟩ := offer
    cases message? with
    | none => exact within.cons_cons n
    | some message => exact within.trans (List.sublist_cons_self ..)

/-- Numbers in order are offered once, with a message or without one. -/
theorem enqueued_once {chronicle : Chronicle} {id : ClientId} {n : Nat} {message : Message}
    (ordered : ((chronicle.offered id).map (·.1)).Pairwise (· < ·))
    (taken : (n, some message) ∈ chronicle.offered id) :
    (chronicle.enqueued id).filter (·.1 = n) = [(n, message)] ∧ n ∉ chronicle.refused id := by
  constructor
  · have distinct := ordered.sublist (enqueued_sublist _ id)
    exact filter_of_ordered distinct (mem_enqueued.mpr taken)
  · intro refused
    have both := (filter_of_ordered ordered taken).symm.trans
      (filter_of_ordered ordered (mem_refused.mp refused))
    simp at both

theorem refused_once {chronicle : Chronicle} {id : ClientId} {n : Nat}
    (ordered : ((chronicle.offered id).map (·.1)).Pairwise (· < ·))
    (refused : (n, none) ∈ chronicle.offered id) :
    (∀ message, (n, message) ∉ chronicle.enqueued id) ∧ (chronicle.refused id).count n = 1 := by
  constructor
  · intro message taken
    have both := (filter_of_ordered ordered refused).symm.trans
      (filter_of_ordered ordered (mem_enqueued.mp taken))
    simp at both
  · have distinct : (chronicle.refused id).Nodup :=
      (ordered.sublist (refused_sublist _ id)).imp Nat.ne_of_lt
    exact List.count_eq_one_of_mem distinct (mem_refused.mpr refused)

/-- A step in which the broker of a client broadcasts a write, and the state of both before it. -/
structure Broadcasts (chronicle : Chronicle) (step : Step) (n : Nat) (id : ClientId)
    (broker : Broker) (client : Client) : Prop where
  source : chronicle.source step = n
  heard : (chronicle.network.broadcast? id.registry step).isSome = true
  here : chronicle.network.brokers[id.registry]? = some broker
  found : broker.registry.clients[id.serial]? = some client

/-- What a client was offered it was offered in some step, and it took the message if it had room
for it then. -/
theorem broadcasts_of_offered (capacity : Nat) {steps : List Step} {id : ClientId} {n : Nat}
    {message? : Option Message} (member : (n, message?) ∈ (run capacity steps).offered id) :
    ∃ earlier step later broker client, steps = earlier ++ step :: later ∧
      (run capacity earlier).Broadcasts step n id broker client ∧
      (message?.isSome = true ↔ client.queue.length < broker.registry.capacity) := by
  induction steps using List.reverseRecOn with
  | nil => contradiction
  | append_singleton steps step before =>
    rw [run_concat, offered_advance, List.mem_append, List.mem_map] at member
    rcases member with old | ⟨_, new, same⟩
    · obtain ⟨earlier, step', later, broker, client, rfl, met⟩ := before old
      exact ⟨earlier, step', later ++ [step], broker, client, by simp, met⟩
    · cases same
      obtain ⟨hub, brokers, sound⟩ := sound_run capacity steps
      rcases sound.reception (sound.advance step) id with
        ⟨_, broker, _, here, _, _, meets⟩ | ⟨_, _, offering, _⟩
      · obtain ⟨heard, client, found, room⟩ := meets.room_of_mem new
        exact ⟨steps, step, [], broker, client, rfl, ⟨rfl, heard, here, found⟩, room⟩
      · rw [offering] at new
        contradiction

/-- As long as the bus was not shut down, a broker that has read all there is, and lost nothing on
the way, has come to each write for a client since the client joined. Where the client had room, it
was given the message exactly once. Where its queue was full, it was never given the message, and
this was counted once. -/
theorem delivered_once (capacity : Nat) {before after : List Step} {id : ClientId}
    {joined client : Client} {broker : Broker} (runs : .shutdown ∉ before ++ after)
    (there : (run capacity before).network.client? id = some joined)
    (here : (run capacity (before ++ after)).network.brokers[id.registry]? = some broker)
    (running : broker.closed = false)
    (idle : ∀ stream, broker.inbound.stream? = some stream →
      (run capacity (before ++ after)).network.fabric.unread stream = 0)
    (kept : ∀ lost, .lagged lost ∉ (run capacity (before ++ after)).items id.registry)
    (found : broker.registry.clients[id.serial]? = some client)
    (registered : client.registered = true) (receiving : client.receiving = true) :
    (∀ n write envelope, (run capacity before).count broker.channel ≤ n →
      ((run capacity (before ++ after)).writesOn broker.channel)[n]? = some write →
      Envelope.decode write.message = .ok envelope →
      (client.filter = "" ∨ client.filter = envelope.scope) →
      ∃ earlier step later b c, before ++ after = earlier ++ step :: later ∧
        (run capacity earlier).Broadcasts step n id b c ∧
        (c.queue.length < b.registry.capacity ∧
            ((run capacity (before ++ after)).enqueued id).filter (·.1 = n)
              = [(n, envelope.data)] ∧
            n ∉ (run capacity (before ++ after)).refused id ∨
          b.registry.capacity ≤ c.queue.length ∧
            (∀ message, (n, message) ∉ (run capacity (before ++ after)).enqueued id) ∧
            ((run capacity (before ++ after)).refused id).count n = 1)) ∧
    broker.stats.droppedFull = .ofNat ((run capacity (before ++ after)).refusals id.registry
      broker.registry.clients.length) := by
  refine ⟨fun n write envelope late written decoded accepts => ?_,
    tallied_run capacity _ id.registry broker here⟩
  obtain ⟨hub, brokers, sound⟩ := sound_run capacity (before ++ after)
  have serves := serves_run capacity runs there here found
  have met {message? : Option Message}
      (member : (n, message?) ∈ (run capacity (before ++ after)).offered id) :=
    broadcasts_of_offered capacity member
  have ordered := (routed_run capacity (before ++ after)).offered_ordered id
  generalize run capacity (before ++ after) = chronicle at *
  have known : chronicle.content broker.channel n = some write.message := by
    rw [content, written, Option.map_some]
  have offered := serves running kept registered receiving n write.message envelope late known
    decoded (by simpa [Client.accepts] using accepts)
  rw [sound.pending_of_idle here idle] at offered
  rcases offered with pending | taken | refused
  · contradiction
  · obtain ⟨earlier, step, later, b, c, split, broadcasts, room⟩ := met taken
    exact ⟨earlier, step, later, b, c, split, broadcasts,
      .inl ⟨room.mp rfl, enqueued_once ordered taken⟩⟩
  · obtain ⟨earlier, step, later, b, c, split, broadcasts, room⟩ := met refused
    have full : b.registry.capacity ≤ c.queue.length := by
      rw [← Nat.not_lt, ← room]
      exact Bool.false_ne_true
    exact ⟨earlier, step, later, b, c, split, broadcasts,
      .inr ⟨full, refused_once ordered refused⟩⟩

/-- One broker and one client of it. -/
def joining : List Step := [.start ⟨"room", 1⟩, .subscribe 0 "a"]

/-- An event for that client, which the loop of the broker reads. -/
def publishing : List Step := [.publish 0 (.bare "created" "a"), .turn 0]

def publishedEnvelope : Envelope := ⟨"a", Event.writeParts "created" "a" none⟩

theorem sealed_published :
    Envelope.sealEvent (Event.bare "created" "a") = .ok publishedEnvelope :=
  Envelope.sealEvent_of_write rfl

theorem network_joining :
    (run 4 joining).network = .onHub ⟨4, [⟨"room", 4, 0, [], [some 0], true⟩]⟩
      [⟨0, "room", ⟨0, 1, [.opened "a"], .zero⟩, .waiting (.hub 0 0 0), true, false⟩] := by
  have made : (run 4 joining).network
      = .onHub ⟨4, [⟨"room", Nat.nextPowerOfTwo 4, 0, [], [some 0], true⟩]⟩
        [⟨0, "room", ⟨0, 1, [.opened "a"], .zero⟩, .waiting (.hub 0 0 0), true, false⟩] := rfl
  have power : Nat.nextPowerOfTwo 4 = 4 := by cbv
  rw [made, power]

theorem network_published :
    ((run 4 joining).network.step (.publish 0 (.bare "created" "a")))
      = .onHub ⟨4, [⟨"room", 4, 1, [publishedEnvelope.encode], [some 0], true⟩]⟩
        [⟨0, "room", ⟨0, 1, [.opened "a"], .zero⟩, .waiting (.hub 0 0 0), true, false⟩] := by
  rw [network_joining, publish_listening rfl rfl rfl rfl sealed_published]
  rfl

theorem network_publishing :
    (run 4 (joining ++ publishing)).network
      = .onHub ⟨4, [⟨"room", 4, 1, [publishedEnvelope.encode], [some 1], true⟩]⟩
        [⟨0, "room", ⟨0, 1, [⟨"a", true, true, true, [publishedEnvelope.data]⟩],
          ⟨1, 0, 0, 0, 1, 0, 0⟩⟩, .running (.hub 0 0 0), true, false⟩] := by
  have stepped : (run 4 (joining ++ publishing)).network
      = ((run 4 joining).network.step (.publish 0 (.bare "created" "a"))).step (.turn 0) := rfl
  have taken := take_message ⟨0, "room", ⟨0, 1, [.opened "a"], .zero⟩, .running (.hub 0 0 0), true,
    false⟩ (Envelope.decode_encode_of_sealEvent sealed_published)
  rw [stepped, network_published, step_turn rfl rfl]
  exact congrArg (fun b => onHub _ [b]) taken

theorem items_publishing :
    (run 4 (joining ++ publishing)).items 0 = [.message publishedEnvelope.encode] := by
  have read : (run 4 (joining ++ publishing)).items 0
      = (((run 4 joining).network.step (.publish 0 (.bare "created" "a"))).read? 0).toList := rfl
  rw [read, network_published]
  rfl

theorem writesOn_publishing : (run 4 (joining ++ publishing)).writesOn "room"
    = [⟨"room", some (.bare "created" "a"), publishedEnvelope.encode⟩] := by
  have writes : (run 4 (joining ++ publishing)).writes
      = ((run 4 joining).network.write? (.publish 0 (.bare "created" "a"))).toList ++ [] := rfl
  simp [writesOn, writes, network_joining, write?, sealed_published, Except.toOption]

theorem delivered_once_publishing : .shutdown ∉ joining ++ publishing ∧
    ∃ joined broker client write,
      (run 4 joining).network.client? ⟨0, 0⟩ = some joined ∧
      (run 4 (joining ++ publishing)).network.brokers[0]? = some broker ∧ broker.closed = false ∧
      (∀ stream, broker.inbound.stream? = some stream →
        (run 4 (joining ++ publishing)).network.fabric.unread stream = 0) ∧
      (∀ lost, .lagged lost ∉ (run 4 (joining ++ publishing)).items 0) ∧
      broker.registry.clients[0]? = some client ∧ client.registered = true ∧
      client.receiving = true ∧
      ((run 4 (joining ++ publishing)).writesOn broker.channel)[0]? = some write ∧
      Envelope.decode write.message = .ok publishedEnvelope ∧
      ∃ earlier step later b c, joining ++ publishing = earlier ++ step :: later ∧
        (run 4 earlier).Broadcasts step 0 ⟨0, 0⟩ b c ∧
        (c.queue.length < b.registry.capacity ∧
            ((run 4 (joining ++ publishing)).enqueued ⟨0, 0⟩).filter (·.1 = 0)
              = [(0, publishedEnvelope.data)] ∧
            0 ∉ (run 4 (joining ++ publishing)).refused ⟨0, 0⟩ ∨
          b.registry.capacity ≤ c.queue.length ∧
            (∀ message, (0, message) ∉ (run 4 (joining ++ publishing)).enqueued ⟨0, 0⟩) ∧
            ((run 4 (joining ++ publishing)).refused ⟨0, 0⟩).count 0 = 1) := by
  have runs : .shutdown ∉ joining ++ publishing := by simp [joining, publishing]
  have there : (run 4 joining).network.client? ⟨0, 0⟩ = some (.opened "a") := by
    rw [network_joining]
    rfl
  have here := congrArg (·.brokers[0]?) network_publishing
  have idle : (run 4 (joining ++ publishing)).network.fabric.unread (.hub 0 0 0) = 0 := by
    rw [network_publishing]
    rfl
  have idle' : ∀ stream, Inbound.stream? (.running (.hub 0 0 0)) = some stream →
      (run 4 (joining ++ publishing)).network.fabric.unread stream = 0 := by
    intro stream same
    cases same
    exact idle
  have kept : ∀ lost, .lagged lost ∉ (run 4 (joining ++ publishing)).items 0 := by
    simp [items_publishing]
  have written : ((run 4 (joining ++ publishing)).writesOn "room")[0]?
      = some ⟨"room", some (.bare "created" "a"), publishedEnvelope.encode⟩ := by
    rw [writesOn_publishing]
    rfl
  have decoded := Envelope.decode_encode_of_sealEvent sealed_published
  have once := (delivered_once 4 runs there here rfl idle' kept rfl rfl rfl).1 0 _ publishedEnvelope
    (Nat.le_refl 0) written decoded (.inr rfl)
  exact ⟨runs, _, _, _, _, there, here, rfl, idle', kept, rfl, rfl, rfl, written, decoded, once⟩

end Chronicle

end Fanout
