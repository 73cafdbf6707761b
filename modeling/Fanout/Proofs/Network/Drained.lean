import Mathlib.Data.List.Sort
import Fanout.Proofs.Network.Ledger
import Fanout.Proofs.Network.Listening

/-! Loops that have read all there is. One that waits for more at the end of a run has been reading
an open channel all along. Between an earlier state and the end it has thus come to what was left to
it then and to all that was written since, in this order, and a client that is still there was
offered each of the messages that is meant for it. -/

namespace Fanout

/-- Numbered entries in order are decided by what is among them. -/
theorem entries_eq {α : Type} {entries : List (Nat × α)} {numbers : List Nat} {x : α}
    (ordered : (entries.map (·.1)).Pairwise (· < ·)) (increasing : numbers.Pairwise (· < ·))
    (same : ∀ n y, (n, y) ∈ entries ↔ n ∈ numbers ∧ y = x) : entries = numbers.map (·, x) := by
  have places : entries.map (·.1) = numbers := by
    refine ordered.eq_of_mem_iff increasing fun n => ?_
    simp [same]
  rw [← places, List.map_map]
  refine (List.map_congr_left (g := id) fun entry member => ?_).trans (List.map_id _) |>.symm
  exact Prod.ext rfl ((same entry.1 entry.2).mp member).2.symm

/-- A reader that has to wait is at an open channel and has come to everything. -/
theorem Channel.Reads.of_pending {channel : Channel} {content : Nat → Option Bytes}
    {numbers : List Nat} {next : Next} {moved : Nat}
    (reads : channel.Reads content numbers next moved) (waits : next = .pending) :
    numbers = [] ∧ channel.isOpen = true := by
  cases reads with
  | nothing =>
    refine ⟨rfl, ?_⟩
    by_contra ended
    rw [if_neg ended] at waits
    contradiction
  | message | lagged => contradiction

/-- A client that is there is offered what it accepts, and nothing else. -/
theorem Client.Meets.length_eq {capacity : Nat} {heard : Option Envelope} {client : Client}
    {offering : List (Option Message)} (meets : Meets capacity heard (some client) offering)
    (registered : client.registered = true) (receiving : client.receiving = true) :
    offering.length = if heard.any (client.accepts ·.scope) then 1 else 0 := by
  cases meets with
  | takes takes => simp [takes.2.1]
  | refuses refuses => simp [refuses.2.1]
  | passes turned =>
    cases heard with
    | none => rfl
    | some envelope =>
      obtain ⟨notTaken, notRefused⟩ := turned envelope client rfl rfl
      have passed : client.accepts envelope.scope = false := by
        rw [← Bool.not_eq_true]
        intro accepts
        exact (takes_or_refuses registered accepts receiving).elim notTaken notRefused
      simp [passed]

/-- The loop of a broker has read all there is, and waits for more. -/
structure Network.Waits (network : Network) (index : Nat) (broker : Broker) : Prop where
  here : network.brokers[index]? = some broker
  drained : network.next? index = some .pending

namespace Chronicle

open Network Broker

variable {chronicle after : Chronicle} {hub : Hub} {brokers : List Broker} {capacity index : Nat}
  {step : Step} {broker broker' : Broker}

/-! ## Loops that wait -/

theorem Sound.attached_of_waits (sound : chronicle.Sound hub brokers)
    (waits : chronicle.network.Waits index broker) :
    broker.Attached hub ∧ chronicle.pending index = [] := by
  obtain ⟨here, drained⟩ := waits
  rw [Network.next?, here, Option.bind_some, Broker.next?, Option.map_eq_some_iff] at drained
  rw [sound.network, onHub_brokers] at here
  obtain ⟨stream, reads, nothing⟩ := drained
  obtain ⟨k, reader, position, c, rfl, found, _, at?⟩ :=
    (sound.wired index broker here).stream stream reads
  obtain ⟨d, moved, found', finds, _⟩ := sound.logs.next at?
  rw [sound.network, onHub_next] at nothing
  cases found.symm.trans found'
  obtain ⟨empty, isOpen⟩ := finds.of_pending nothing
  refine ⟨⟨k, reader, c, reads, found, isOpen⟩, ?_⟩
  rw [sound.pending_eq here, pending_of_stream reads at?, empty]

/-- An attached broker is not closed. -/
theorem Sound.running_of_attached (sound : chronicle.Sound hub brokers)
    (here : brokers[index]? = some broker) (attached : broker.Attached hub) :
    broker.closed = false := by
  rw [← Bool.not_eq_true]
  intro closed
  exact not_attached_of_none ((sound.wired index broker here).closed closed) attached

theorem tidy_run (capacity : Nat) (steps : List Step) : (run capacity steps).network.Tidy := by
  rw [← acts_initial]
  exact (tidy_initial _ _ _).acts _

/-- A broker that is attached after a step was attached before it: nothing opens a channel again. -/
theorem attached_before {steps : List Step}
    (here : (run capacity steps).network.brokers[index]? = some broker)
    (here' : (run capacity (steps ++ [step])).network.brokers[index]? = some broker')
    (attached : broker'.Attached (run capacity (steps ++ [step])).network.hub) :
    broker.Attached (run capacity steps).network.hub := by
  have tidy := tidy_run capacity steps
  obtain ⟨k, reader, channel, reads', found', isOpen'⟩ := attached
  rw [run_concat, advance_network, ← act_on_zero] at here' found'
  obtain ⟨reads, _, follows⟩ := tidy.follows (.on 0 step) here here' reads'
  obtain ⟨isOpen, unread, sees⟩ := (tidy.reads index broker _ here reads).2 (by simp [Stream.hub?])
  obtain ⟨left, sees', _⟩ := follows 0 rfl isOpen unread sees
  obtain ⟨_, _, _, memory, same, hubs, c, _, found, _, opened, _⟩ := sees
  obtain ⟨_, _, _, memory', same', hubs', c', _, found'', _, opened', _⟩ := sees'
  cases same
  cases same'
  rw [Network.hub, hubs', Option.getD_some] at found'
  cases found'.symm.trans found''
  rw [isOpen', eq_comm, Bool.and_eq_true] at opened'
  refine ⟨k, reader, c, reads, ?_, opened.trans opened'.1⟩
  rw [Network.hub, hubs, Option.getD_some]
  exact found

/-! ## What a loop comes to -/

/-- The numbers that a loop comes to in a step, one at most, and what is broadcast of that. -/
inductive Comes (after : Chronicle) (channel : String) (source : Nat) :
    List Nat → Option Envelope → Prop where
  | nothing : Comes after channel source [] none
  | message {bytes : Bytes} : after.content channel source = some bytes →
      Comes after channel source [source] (Envelope.decode bytes).toOption

/-- A loop that stays attached and does not fall behind comes to what is due, in order. -/
theorem Flow.comes {source : Nat} {read : Option BusItem} {heard : Option Envelope}
    (flow : Flow chronicle after index broker broker' source read heard)
    (running : broker'.closed = false) (attached : broker.Attached chronicle.network.hub)
    (kept : ∀ lost, read ≠ some (.lagged lost)) :
    chronicle.count broker.channel ≤ after.count broker.channel ∧ ∃ due,
      due ++ after.pending index = chronicle.pending index
        ++ List.range' (chronicle.count broker.channel)
          (after.count broker.channel - chronicle.count broker.channel) ∧
      Comes after broker.channel source due heard := by
  cases flow with
  | still same counted =>
    rw [counted, same, Nat.sub_self, List.range'_zero, List.append_nil]
    exact ⟨Nat.le_refl _, [], rfl, .nothing⟩
  | stored grown counted =>
    rw [counted, grown, Nat.add_sub_cancel_left]
    exact ⟨Nat.le_succ _, [], rfl, .nothing⟩
  | direct empty empty' counted known decoded =>
    have comes : Comes after broker.channel _ _ _ := .message known
    rw [decoded] at comes
    rw [counted, empty, empty', Nat.add_sub_cancel_left]
    exact ⟨Nat.le_succ _, _, rfl, comes⟩
  | message next counted known =>
    rw [counted, next, Nat.sub_self, List.range'_zero, List.append_nil]
    exact ⟨Nat.le_refl _, _, rfl, .message known⟩
  | missed _ _ detached | ended _ _ _ detached => exact absurd attached detached
  | lagged => exact absurd rfl (kept _)
  | closed _ _ closed =>
    rw [closed] at running
    contradiction

/-- The message of a write, if it is meant for a client. -/
def meant? (chronicle : Chronicle) (channel : String) (client : Client) (n : Nat) :
    Option Message := do
  let bytes ← chronicle.content channel n
  let envelope ← (Envelope.decode bytes).toOption
  if client.accepts envelope.scope then some envelope.data else none

/-- What the loop of a broker comes to from one state on, if it has read all there is in another. -/
def ahead (first last : Chronicle) (index : Nat) (channel : String) : List Nat :=
  first.pending index
    ++ List.range' (first.count channel) (last.count channel - first.count channel)

/-- What has become of a client of a broker between two states: what its loop has come to, in which
order, and what the client was offered of that. -/
structure Meanwhile (first now : Chronicle) (id : ClientId) (broker : Broker) (client : Client)
    (come : List Nat) (fresh : List (Nat × Option Message)) : Prop where
  later : first.count broker.channel ≤ now.count broker.channel
  order : come ++ now.pending id.registry = first.ahead now id.registry broker.channel
  written : ∀ n ∈ come, n < now.count broker.channel
  offered : now.offered id = first.offered id ++ fresh
  meant : fresh.map (·.1) = come.filter fun n => (now.meant? broker.channel client n).isSome
  queue : (now.network.queue id).length ≤ (first.network.queue id).length + fresh.length
  /-- A queue gets full by what was offered only. -/
  full : ∀ n, (n, none) ∈ fresh →
    broker.registry.capacity < (first.network.queue id).length + fresh.length

section Advance

variable {first : Chronicle} {id : ClientId} {joined client : Client} {come : List Nat}
  {fresh : List (Nat × Option Message)}

theorem meant?_eq {channel : String} {n : Nat} {bytes : Bytes}
    (known : chronicle.content channel n = some bytes) (client : Client) :
    (chronicle.meant? channel client n).isSome
      = (Envelope.decode bytes).toOption.any (client.accepts ·.scope) := by
  simp only [meant?, known, Option.bind_eq_bind, Option.bind_some]
  cases (Envelope.decode bytes).toOption with
  | none => rfl
  | some envelope => cases accepts : client.accepts envelope.scope <;> simp [accepts]

/-- What was meant for a client remains so. -/
theorem meant?_advance {channel : String} {n : Nat} (before : n < chronicle.count channel) :
    (chronicle.advance step).meant? channel client n = chronicle.meant? channel client n := by
  rw [meant?, content_advance before, ← meant?]

theorem Comes.written {channel : String} {source : Nat} {due : List Nat} {heard : Option Envelope}
    (comes : Comes after channel source due heard) : ∀ n ∈ due, n < after.count channel := by
  cases comes with
  | nothing => simp
  | message known =>
    intro n member
    rw [List.mem_singleton.mp member]
    exact lt_count_of_content known

/-- A client that is there is offered what the loop comes to and is meant for it. -/
theorem Comes.meant {channel : String} {source : Nat} {due : List Nat} {heard : Option Envelope}
    {offering : List (Option Message)} (comes : Comes after channel source due heard)
    (meets : Client.Meets capacity heard (some client) offering) (lasts : joined.Lasts client)
    (registered : client.registered = true) (receiving : client.receiving = true) :
    offering.map (fun _ => source)
      = due.filter fun n => (after.meant? channel joined n).isSome := by
  rw [List.map_const', meets.length_eq registered receiving]
  cases comes with
  | nothing => rfl
  | message known =>
    simp only [List.filter_cons, meant?_eq known joined, lasts.accepts, List.filter_nil]
    split <;> rfl

theorem Meanwhile.refl (chronicle : Chronicle) (id : ClientId) (broker : Broker) (client : Client) :
    Meanwhile chronicle chronicle id broker client [] [] := by
  constructor <;> simp [ahead]

theorem Meanwhile.advance (meanwhile : Meanwhile first chronicle id broker joined come fresh)
    (sound : chronicle.Sound hub brokers) {hub' : Hub}
    (passes : chronicle.Passes step hub hub' id.registry broker broker')
    (meets : Client.Meets broker.registry.capacity
      (chronicle.network.broadcast? id.registry step) (some client) (chronicle.offering step id))
    (queued : chronicle.network.queue id = client.queue)
    (lasts : joined.Lasts client) (registered : client.registered = true)
    (receiving : client.receiving = true) (running : broker'.closed = false)
    (attached : broker.Attached chronicle.network.hub)
    (kept : ∀ lost, chronicle.network.item? id.registry step ≠ some (.lagged lost)) :
    ∃ come fresh, Meanwhile first (chronicle.advance step) id broker' joined come fresh := by
  obtain ⟨grows, due, order, comes⟩ := passes.flow.comes running attached kept
  have later := meanwhile.later
  refine ⟨come ++ due, fresh ++ (chronicle.offering step id).map (chronicle.source step, ·), ?_⟩
  constructor
  case later =>
    rw [passes.channel]
    exact Nat.le_trans later grows
  case order =>
    have apart : chronicle.count broker.channel = first.count broker.channel
        + (chronicle.count broker.channel - first.count broker.channel) := by omega
    rw [passes.channel, List.append_assoc, order, ← List.append_assoc, meanwhile.order, ahead,
      ahead, List.append_assoc]
    conv => lhs; rhs; rhs; rw [apart]
    rw [List.range'_append_1]
    congr 2
    omega
  case written =>
    intro n member
    rw [passes.channel]
    rcases List.mem_append.mp member with old | new
    · exact Nat.lt_of_lt_of_le (meanwhile.written n old) grows
    · exact comes.written n new
  case offered => rw [offered_advance, meanwhile.offered, List.append_assoc]
  case meant =>
    rw [passes.channel, List.map_append, List.map_map, List.filter_append, meanwhile.meant,
      ← comes.meant meets lasts registered receiving]
    congr 1
    refine List.filter_congr fun n member => ?_
    rw [meant?_advance (meanwhile.written n member)]
  case queue =>
    have queue := meanwhile.queue
    have gained : (chronicle.gained step id).length ≤ (chronicle.offering step id).length := by
      simp [offering]
    rw [List.length_append, List.length_map, advance_network]
    rcases sound.queue_step step id with grown | suffix
    · rw [grown, List.length_append]
      omega
    · have shorter := suffix.length_le
      omega
  case full =>
    intro n member
    rw [passes.tells.capacity, List.length_append, List.length_map]
    rcases List.mem_append.mp member with old | new
    · have full := meanwhile.full n old
      omega
    · obtain ⟨message?, refused, same⟩ := List.mem_map.mp new
      cases same
      obtain ⟨_, d, same, room⟩ := meets.room_of_mem refused
      cases same
      have queue := meanwhile.queue
      have some := List.length_pos_of_mem refused
      rw [queued] at queue
      have full : broker.registry.capacity ≤ client.queue.length := by simpa using room
      omega

end Advance

/-! ## Runs -/

theorem items_advance (chronicle : Chronicle) (step : Step) (index : Nat) :
    (chronicle.advance step).items index
      = chronicle.items index ++ (chronicle.network.item? index step).toList := rfl

/-- What is on record and grows in each step is still on record after a run. -/
theorem kept_run {α : Type} (record : Chronicle → List α)
    (grows : ∀ chronicle step, record chronicle <+: record (chronicle.advance step))
    (capacity : Nat) (before later : List Step) :
    record (run capacity before) <+: record (run capacity (before ++ later)) := by
  induction later using List.reverseRecOn with
  | nil => rw [List.append_nil]
  | append_singleton later step kept =>
    rw [← List.append_assoc, run_concat]
    exact kept.trans (grows _ step)

/-- What a loop has read remains on record. -/
theorem items_kept (capacity : Nat) (before later : List Step) (index : Nat) :
    (run capacity before).items index <+: (run capacity (before ++ later)).items index :=
  kept_run (·.items index) (fun _ _ => List.prefix_append ..) capacity before later

/-- What the loop of a broker reads in the second part of a run. -/
def itemsSince (capacity : Nat) (before later : List Step) (index : Nat) : List BusItem :=
  ((run capacity (before ++ later)).items index).drop ((run capacity before).items index).length

theorem itemsSince_concat (capacity : Nat) (before later : List Step) (step : Step) (index : Nat) :
    itemsSince capacity before (later ++ [step]) index = itemsSince capacity before later index
      ++ ((run capacity (before ++ later)).network.item? index step).toList := by
  obtain ⟨more, same⟩ := items_kept capacity before later index
  rw [itemsSince, ← List.append_assoc, run_concat, items_advance, itemsSince, ← same,
    List.append_assoc, List.drop_left, List.drop_left]

variable {before later : List Step} {id : ClientId} {first : Broker} {joined client : Client}

/-- A client that is there stays where it is, and its broker on its channel. -/
theorem exists_client (here : (run capacity before).network.brokers[id.registry]? = some first)
    (found : first.registry.clients[id.serial]? = some joined) (later : List Step) :
    ∃ b c, (run capacity (before ++ later)).network.brokers[id.registry]? = some b ∧
      b.registry.clients[id.serial]? = some c ∧ b.channel = first.channel ∧ joined.Lasts c := by
  refine client_induction (motive := fun _ b c => b.channel = first.channel ∧ joined.Lasts c) here
    found ⟨rfl, .refl joined⟩ ?_ later
  intro _ _ _ _ _ _ _ _ passes _ step earlier
  exact ⟨passes.channel.trans earlier.1, earlier.2.trans step⟩

/-- As long as the loop stays attached and loses nothing, a client that is there is offered whatever
the loop comes to that is meant for it. -/
theorem exists_meanwhile
    (there : (run capacity before).network.brokers[id.registry]? = some first)
    (found : first.registry.clients[id.serial]? = some joined)
    (here : (run capacity (before ++ later)).network.brokers[id.registry]? = some broker)
    (attached : broker.Attached (run capacity (before ++ later)).network.hub)
    (kept : ∀ lost, .lagged lost ∉ itemsSince capacity before later id.registry)
    (stays : broker.registry.clients[id.serial]? = some client)
    (registered : client.registered = true) (receiving : client.receiving = true) :
    ∃ come fresh, Meanwhile (run capacity before) (run capacity (before ++ later)) id broker joined
      come fresh := by
  induction later using List.reverseRecOn generalizing broker client with
  | nil =>
    rw [List.append_nil]
    exact ⟨[], [], .refl ..⟩
  | append_singleton later step earlier =>
    obtain ⟨b, c, here', found', _, lasts⟩ := exists_client there found later
    obtain ⟨hub, brokers, sound⟩ := sound_run capacity (before ++ later)
    obtain ⟨hub', d, e, reached, there', lasts', passes, meets⟩ :=
      sound.client (sound.advance step) here' found'
    obtain ⟨hub'', brokers', sound'⟩ := sound_run capacity (before ++ (later ++ [step]))
    rw [← List.append_assoc] at here attached sound' ⊢
    rw [← run_concat] at reached
    cases here.symm.trans reached
    cases stays.symm.trans there'
    have attached' := attached_before here' here attached
    rw [itemsSince_concat] at kept
    rw [sound'.hub_eq] at attached
    rw [sound'.network, onHub_brokers] at here
    obtain ⟨come, fresh, meanwhile⟩ := earlier here' attached'
      (fun lost member => kept lost (List.mem_append_left _ member)) found'
      (lasts'.registered registered) (lasts'.receiving receiving)
    have queued : (run capacity (before ++ later)).network.queue id = c.queue := by
      rw [Network.queue, client?, here', Option.bind_some, found', Option.map_some,
        Option.getD_some]
    rw [run_concat]
    exact meanwhile.advance sound passes meets queued lasts (lasts'.registered registered)
      (lasts'.receiving receiving) (sound'.running_of_attached here attached) attached'
      fun lost reads => kept lost (List.mem_append_right _ (by rw [reads]; simp))

/-! ## Copies -/

/-- Whether the queue of a client has room for all that the loop of its broker comes to for it from
one state on until another. -/
def HasRoom (first last : Chronicle) (id : ClientId) (broker : Broker) (client : Client) : Prop :=
  (first.network.queue id).length + ((first.ahead last id.registry broker.channel).countP
    fun n => (last.meant? broker.channel client n).isSome) ≤ broker.registry.capacity

theorem hasRoom_of_le {first last : Chronicle} (fits : (first.network.queue id).length
    + (first.ahead last id.registry broker.channel).length ≤ broker.registry.capacity) :
    first.HasRoom last id broker client :=
  Nat.le_trans (Nat.add_le_add_left (List.countP_le_length ..) _) fits

/-- What a client has got of these writes on the channel of its broker, which are all of the same
message, from one state on until another. -/
structure Copied (first last : Chronicle) (id : ClientId) (broker : Broker) (client : Client)
    (numbers : List Nat) (message : Message) : Prop where
  /-- Each of them that has not found the queue full was put into it, once. -/
  queued : (last.enqueued id).filter (fun entry => entry.1 ∈ numbers)
    = (numbers.filter (· ∉ last.refused id)).map (·, message)
  /-- With enough room these are all of them. -/
  whole : first.HasRoom last id broker client →
    (last.enqueued id).filter (fun entry => entry.1 ∈ numbers) = numbers.map (·, message)

section Offers

variable {come : List Nat} {fresh : List (Nat × Option Message)} {n : Nat} {bytes : Bytes}
  {envelope : Envelope}

/-- What was written meanwhile and is meant for the client was offered to it. -/
theorem Meanwhile.offers {first now : Chronicle}
    (meanwhile : Meanwhile first now id broker client come fresh)
    (drained : now.pending id.registry = []) (since : first.count broker.channel ≤ n)
    (meant : (now.meant? broker.channel client n).isSome = true) :
    ∃ message?, (n, message?) ∈ fresh := by
  have written : n < now.count broker.channel := by
    obtain ⟨_, found⟩ := Option.isSome_iff_exists.mp meant
    obtain ⟨bytes, known, _⟩ := Option.bind_eq_some_iff.mp found
    exact lt_count_of_content known
  have later := meanwhile.later
  have order := meanwhile.order
  rw [drained, List.append_nil] at order
  have listed : n ∈ fresh.map (·.1) := by
    rw [meanwhile.meant, order]
    refine List.mem_filter.mpr ⟨List.mem_append_right _ (List.mem_range'_1.mpr ⟨since, ?_⟩), meant⟩
    omega
  obtain ⟨⟨_, message?⟩, there, rfl⟩ := List.mem_map.mp listed
  exact ⟨message?, there⟩

/-- With room for all that is to come nothing finds the queue full. -/
theorem Meanwhile.not_refused {first now : Chronicle}
    (meanwhile : Meanwhile first now id broker client come fresh)
    (drained : now.pending id.registry = [])
    (room : first.HasRoom now id broker client) : (n, none) ∉ fresh := by
  intro refused
  have full := meanwhile.full n refused
  have order := meanwhile.order
  rw [drained, List.append_nil] at order
  have length := congrArg List.length meanwhile.meant
  rw [List.length_map, ← List.countP_eq_length_filter, order] at length
  rw [HasRoom] at room
  omega

/-- A client is given the message of a write, and no other one for it. -/
theorem Routed.message (routed : chronicle.Routed)
    (here : chronicle.network.brokers[id.registry]? = some broker)
    (known : chronicle.content broker.channel n = some bytes)
    (decoded : Envelope.decode bytes = .ok envelope) {message : Message}
    (taken : (n, some message) ∈ chronicle.offered id) : message = envelope.data := by
  obtain ⟨b, _, _, scope, same, _, known', reads, _⟩ := routed.origin id n message taken
  cases here.symm.trans same
  cases known.symm.trans known'
  cases decoded.symm.trans reads
  rfl

/-- The message of a write that was offered is queued, unless the queue was full. -/
theorem Routed.mem_enqueued_iff (routed : chronicle.Routed)
    (here : chronicle.network.brokers[id.registry]? = some broker)
    (known : chronicle.content broker.channel n = some bytes)
    (decoded : Envelope.decode bytes = .ok envelope)
    (offered : ∃ message?, (n, message?) ∈ chronicle.offered id) {message : Message} :
    (n, message) ∈ chronicle.enqueued id
      ↔ n ∉ chronicle.refused id ∧ message = envelope.data := by
  rw [mem_enqueued]
  constructor
  · intro taken
    exact ⟨(enqueued_once (routed.offered_ordered id) taken).2,
      routed.message here known decoded taken⟩
  · rintro ⟨notRefused, rfl⟩
    obtain ⟨message?, given⟩ := offered
    cases message? with
    | none => exact absurd (mem_refused.mpr given) notRefused
    | some message =>
      rw [routed.message here known decoded given] at given
      exact given

/-- Of writes that were offered and have the same message, those are queued that did not find the
queue full. -/
theorem Routed.queued (routed : chronicle.Routed)
    (here : chronicle.network.brokers[id.registry]? = some broker)
    (decoded : Envelope.decode bytes = .ok envelope) {numbers : List Nat}
    (increasing : numbers.Pairwise (· < ·))
    (known : ∀ n ∈ numbers, chronicle.content broker.channel n = some bytes)
    (offered : ∀ n ∈ numbers, ∃ message?, (n, message?) ∈ chronicle.offered id) :
    (chronicle.enqueued id).filter (fun entry => entry.1 ∈ numbers)
      = (numbers.filter (· ∉ chronicle.refused id)).map (·, envelope.data) := by
  have queued (n : Nat) (member : n ∈ numbers) (message : Message) :
      (n, message) ∈ chronicle.enqueued id
        ↔ n ∉ chronicle.refused id ∧ message = envelope.data :=
    routed.mem_enqueued_iff here (known n member) decoded (offered n member)
  apply entries_eq
  case ordered =>
    refine (routed.offered_ordered id).sublist (.trans ?_ (enqueued_sublist _ id))
    exact List.filter_sublist.map _
  case increasing => exact increasing.sublist List.filter_sublist
  case same =>
    intro n message
    rw [List.mem_filter, List.mem_filter, decide_eq_true_eq, decide_eq_true_eq]
    constructor
    · rintro ⟨taken, member⟩
      obtain ⟨notRefused, same⟩ := (queued n member message).mp taken
      exact ⟨⟨member, notRefused⟩, same⟩
    · rintro ⟨⟨member, notRefused⟩, same⟩
      exact ⟨(queued n member message).mpr ⟨notRefused, same⟩, member⟩

/-- What was offered was written before. -/
theorem Routed.lt_count (routed : chronicle.Routed)
    (here : chronicle.network.brokers[id.registry]? = some broker) {message? : Option Message}
    (offered : (n, message?) ∈ chronicle.offered id) : n < chronicle.count broker.channel := by
  have bounded := (pairwise_snoc.mp (routed.ordered id broker here)).2
  exact bounded n (List.mem_append_left _ (List.mem_map_of_mem offered))

end Offers

/-- A client that was there from one state on until the loop of its broker had read all there was,
and had lost nothing on the way, has got its copies of what was written meanwhile. -/
theorem copied_of_waits {bytes : Bytes} {envelope : Envelope} {numbers : List Nat}
    (there : (run capacity before).network.brokers[id.registry]? = some first)
    (found : first.registry.clients[id.serial]? = some joined)
    (waits : (run capacity (before ++ later)).network.Waits id.registry broker)
    (kept : ∀ lost, .lagged lost ∉ itemsSince capacity before later id.registry)
    (stays : broker.registry.clients[id.serial]? = some client)
    (registered : client.registered = true) (receiving : client.receiving = true)
    (accepts : joined.accepts envelope.scope = true)
    (decoded : Envelope.decode bytes = .ok envelope) (increasing : numbers.Pairwise (· < ·))
    (written : ∀ n ∈ numbers, (run capacity before).count broker.channel ≤ n ∧
      (run capacity (before ++ later)).content broker.channel n = some bytes) :
    Copied (run capacity before) (run capacity (before ++ later)) id broker joined numbers
      envelope.data := by
  obtain ⟨b, _, same, _, channel, _⟩ := exists_client there found later
  cases waits.here.symm.trans same
  have earlier := routed_run capacity before
  have routed := routed_run capacity (before ++ later)
  obtain ⟨hub, brokers, sound⟩ := sound_run capacity (before ++ later)
  obtain ⟨attached, drained⟩ := sound.attached_of_waits waits
  rw [← sound.hub_eq] at attached
  obtain ⟨come, fresh, meanwhile⟩ :=
    exists_meanwhile there found waits.here attached kept stays registered receiving
  have offered := meanwhile.offered
  have given (n : Nat) (member : n ∈ numbers) :
      ∃ message?, (n, message?) ∈ (run capacity (before ++ later)).offered id := by
    obtain ⟨since, known⟩ := written n member
    have meant := meant?_eq known joined
    rw [decoded] at meant
    obtain ⟨message?, new⟩ := meanwhile.offers drained since (meant.trans accepts)
    exact ⟨message?, offered ▸ List.mem_append_right _ new⟩
  have queued := routed.queued waits.here decoded increasing (fun n member => (written n member).2)
    given
  refine ⟨queued, fun room => ?_⟩
  rw [queued, List.filter_eq_self.mpr]
  intro n member
  rw [decide_eq_true_eq, mem_refused, offered, List.mem_append]
  rintro (old | new)
  · have before' := earlier.lt_count there old
    rw [← channel] at before'
    exact Nat.not_lt_of_le (written n member).1 before'
  · exact meanwhile.not_refused drained room new

end Chronicle

end Fanout
