import Fanout.Proofs.Network.Reception

/-! Messages reach a client in the order of their writes and at most once, by whichever way they
come. The numbers of what a client was offered, of what the loop of its broker has still to come to,
and of the next write are in order at any time. -/

namespace Fanout

open Network

namespace Write

/-- The write is of this message, for this scope. -/
def Carries (write : Write) (scope : String) (message : Message) : Prop :=
  match write.event with
  | some event => event.write = .ok message ∧ event.scope = scope
  | none => Envelope.decode write.message = .ok ⟨scope, message⟩

end Write

namespace Chronicle

variable {chronicle after : Chronicle} {hub : Hub} {brokers : List Broker} {step : Step}
  {index : Nat} {broker broker' : Broker} {source : Nat} {read : Option BusItem}
  {heard : Option Envelope}

/-! ## What one step keeps -/

/-- What is offered to a client comes behind all it was offered before, and ahead of all that is
still to come. -/
theorem Flow.ordered (flow : Flow chronicle after index broker broker' source read heard)
    {offered given : List Nat} (within : given.Sublist (heard.toList.map fun _ => source))
    (ordered : (offered ++ chronicle.pending index
      ++ [chronicle.count broker.channel]).Pairwise (· < ·)) :
    (offered ++ given ++ after.pending index ++ [after.count broker.channel]).Pairwise (· < ·) := by
  have silent (none : heard = none) : given = [] := by
    rw [none] at within
    exact List.sublist_nil.mp within
  have one : given.Sublist [source] := by
    refine within.trans ?_
    cases heard <;> simp
  cases flow with
  | still same counted =>
    rw [silent rfl, same, counted, List.append_nil]
    exact ordered
  | missed same counted _ =>
    rw [silent rfl, same, counted, List.append_nil]
    exact (snoc_succ ordered).sublist ((List.sublist_append_left _ _).append (.refl _))
  | stored grown counted =>
    rw [silent rfl, grown, counted, List.append_nil, ← List.append_assoc]
    exact snoc_succ ordered
  | direct empty empty' counted _ _ =>
    rw [empty, List.append_nil] at ordered
    rw [empty', counted, List.append_nil]
    exact (snoc_succ ordered).sublist (((List.Sublist.refl _).append one).append (.refl _))
  | message next counted _ =>
    rw [next] at ordered
    rw [counted, List.append_assoc offered]
    exact ordered.sublist (((List.Sublist.refl _).append (one.append (.refl _))).append (.refl _))
  | lagged lost counted =>
    rw [silent rfl, lost, counted, List.append_nil]
    exact ordered.sublist (((List.Sublist.refl _).append (List.drop_sublist _ _)).append (.refl _))
  | ended _ empty counted _ | closed empty counted _ =>
    rw [silent rfl, empty, counted, List.append_nil]
    exact ordered.sublist (((List.Sublist.refl _).append (List.nil_sublist _)).append (.refl _))

/-- What a broker broadcasts is the message of the write that it comes from. -/
theorem Flow.heard_spec (flow : Flow chronicle after index broker broker' source read heard)
    {envelope : Envelope} (here : heard = some envelope) :
    ∃ bytes, after.content broker.channel source = some bytes ∧
      Envelope.decode bytes = .ok envelope := by
  cases flow with
  | direct _ _ _ known decoded =>
    cases here
    exact ⟨_, known, decoded⟩
  | @message _ bytes _ _ known =>
    cases decoded : Envelope.decode bytes with
    | error _ => simp [decoded, Except.toOption] at here
    | ok found =>
      rw [decoded] at here
      cases here
      exact ⟨bytes, known, decoded⟩
  | still | missed | stored | lagged | ended | closed => contradiction

/-! ## What every run keeps -/

/-- What clients were offered is in order, and is for them. -/
structure Routed (chronicle : Chronicle) : Prop where
  ordered : ∀ (id : ClientId) (broker : Broker),
    chronicle.network.brokers[id.registry]? = some broker →
    ((chronicle.offered id).map (·.1) ++ chronicle.pending id.registry
      ++ [chronicle.count broker.channel]).Pairwise (· < ·)
  origin : ∀ (id : ClientId) (n : Nat) (message : Message),
    (n, some message) ∈ chronicle.offered id → ∃ broker client bytes scope,
      chronicle.network.brokers[id.registry]? = some broker ∧
      broker.registry.clients[id.serial]? = some client ∧
      chronicle.content broker.channel n = some bytes ∧
      Envelope.decode bytes = .ok ⟨scope, message⟩ ∧ client.accepts scope = true
  nobody : ∀ id, chronicle.network.client? id = none → chronicle.offered id = []

theorem offered_advance (chronicle : Chronicle) (step : Step) (id : ClientId) :
    (chronicle.advance step).offered id = chronicle.offered id
      ++ (chronicle.offering step id).map (chronicle.source step, ·) := rfl

/-- What was written remains what it is. -/
theorem content_of_some {channel : String} {n : Nat} {bytes : Bytes}
    (known : chronicle.content channel n = some bytes) :
    (chronicle.advance step).content channel n = some bytes := by
  exact (content_advance (lt_count_of_content known)).trans known

theorem Routed.advance (routed : chronicle.Routed) (sound : chronicle.Sound hub brokers)
    (advances : chronicle.Advances hub brokers step) : (chronicle.advance step).Routed := by
  constructor
  case ordered =>
    intro id d there
    rcases sound.reception advances id with
      ⟨after, broker, broker', here, here', passes, meets⟩ | ⟨absent, _, offering, pending⟩
    · cases here'.symm.trans there
      rw [offered_advance, List.map_append, List.map_map, passes.channel]
      exact passes.flow.ordered meets.within (routed.ordered id broker here)
    · rw [offered_advance, routed.nobody id absent, offering, pending]
      exact List.pairwise_singleton ..
  case origin =>
    intro id n message member
    rw [offered_advance, List.mem_append, List.mem_map] at member
    rcases sound.reception advances id with
      ⟨after, broker, broker', here, here', passes, meets⟩ | ⟨absent, _, offering, _⟩
    · rcases member with old | ⟨_, new, same⟩
      · obtain ⟨b, client, bytes, scope, there, found, known, decoded, accepts⟩ :=
          routed.origin id n message old
        cases here.symm.trans there
        obtain ⟨client', found', lasts⟩ := passes.tells.client found
        rw [← passes.channel] at known
        rw [← lasts.accepts] at accepts
        exact ⟨broker', client', bytes, scope, here', found', content_of_some known, decoded,
          accepts⟩
      · cases same
        obtain ⟨envelope, client, heard, found, takes, rfl⟩ := meets.takes_of_mem new
        obtain ⟨client', found', lasts⟩ := passes.tells.client found
        obtain ⟨bytes, known, decoded⟩ := passes.flow.heard_spec heard
        rw [← passes.channel] at known
        have accepts := takes.2.1
        rw [← lasts.accepts] at accepts
        exact ⟨broker', client', bytes, envelope.scope, here', found', known, decoded, accepts⟩
    · simp [routed.nobody id absent, offering] at member
  case nobody =>
    intro id absent
    rw [offered_advance]
    rcases sound.reception advances id with
      ⟨after, broker, broker', here, here', passes, meets⟩ | ⟨absent', _, offering, _⟩
    · have gone : broker.registry.clients[id.serial]? = none := by
        rw [Option.eq_none_iff_forall_ne_some]
        intro client found
        obtain ⟨client', found', _⟩ := passes.tells.client found
        rw [client?, here', Option.bind_some, found'] at absent
        contradiction
      rw [routed.nobody id (by rw [client?, here, Option.bind_some, gone]), meets.nil_of_none gone]
      rfl
    · rw [routed.nobody id absent', offering]
      rfl

theorem routed_start (capacity : Nat) : (start capacity).Routed := by
  refine ⟨?_, ?_, fun _ _ => rfl⟩ <;> simp [start]

theorem routed_run (capacity : Nat) (steps : List Step) : (run capacity steps).Routed :=
  run_induction capacity [] steps (routed_start capacity)
    fun _ _ _ _ _ sound advances routed => routed.advance sound advances

/-! ## Delivery in order -/

theorem enqueued_sublist (chronicle : Chronicle) (id : ClientId) :
    ((chronicle.enqueued id).map (·.1)).Sublist ((chronicle.offered id).map (·.1)) := by
  unfold enqueued
  induction chronicle.offered id with
  | nil => exact .refl _
  | cons offer offers within =>
    obtain ⟨n, message?⟩ := offer
    cases message? with
    | none => exact within.trans (List.sublist_cons_self ..)
    | some message => exact within.cons_cons n

theorem mem_enqueued {chronicle : Chronicle} {id : ClientId} {n : Nat} {message : Message} :
    (n, message) ∈ chronicle.enqueued id ↔ (n, some message) ∈ chronicle.offered id := by
  simp only [enqueued, List.mem_filterMap, Option.map_eq_some_iff, Prod.mk.injEq]
  constructor
  · rintro ⟨⟨_, _⟩, member, _, rfl, rfl, rfl⟩
    exact member
  · exact fun member => ⟨_, member, message, rfl, rfl, rfl⟩

/-- Each number is offered to a client once at most. -/
theorem Routed.offered_ordered (routed : chronicle.Routed) (id : ClientId) :
    ((chronicle.offered id).map (·.1)).Pairwise (· < ·) := by
  cases here : chronicle.network.brokers[id.registry]? with
  | none =>
    rw [routed.nobody id (by rw [client?, here, Option.bind_none])]
    exact .nil
  | some broker =>
    have ordered := routed.ordered id broker here
    exact (List.pairwise_append.mp (List.pairwise_append.mp ordered).1).1

/-- A message that comes off a channel is what was published there. -/
theorem Sound.carries (sound : chronicle.Sound hub brokers) {channel : String} {n : Nat}
    {bytes : Bytes} {scope : String} {message : Message}
    (known : chronicle.content channel n = some bytes)
    (decoded : Envelope.decode bytes = .ok ⟨scope, message⟩) :
    ∃ write, (chronicle.writesOn channel)[n]? = some write ∧ write.Carries scope message := by
  rw [content, Option.map_eq_some_iff] at known
  obtain ⟨write, found, rfl⟩ := known
  refine ⟨write, found, ?_⟩
  have member := List.mem_of_mem_filter (List.mem_of_getElem? found)
  unfold Write.Carries
  cases published : write.event with
  | none => exact decoded
  | some event =>
    obtain ⟨envelope, sealed, same⟩ := sound.sealed write member event published
    rw [same, Envelope.decode_encode_of_sealEvent sealed] at decoded
    cases decoded
    obtain ⟨written, routed⟩ := Envelope.write_of_sealEvent sealed
    exact ⟨written, routed.symm⟩

/-- Whatever happens on the bus and to the brokers, the messages that a client was ever given come
from writes on the channel of its broker, each from a later one than the message before it. Each is
the text of the event that was published, or what the bytes of a foreign write carry, and its scope
is one that the client listens to. -/
theorem enqueued_in_order (capacity : Nat) (steps : List Step) (id : ClientId) :
    (((run capacity steps).enqueued id).map (·.1)).Pairwise (· < ·) ∧
    ∀ n message, (n, message) ∈ (run capacity steps).enqueued id → ∃ broker client write scope,
      (run capacity steps).network.brokers[id.registry]? = some broker ∧
      broker.registry.clients[id.serial]? = some client ∧
      ((run capacity steps).writesOn broker.channel)[n]? = some write ∧
      write.Carries scope message ∧ (client.filter = "" ∨ client.filter = scope) := by
  have routed := routed_run capacity steps
  obtain ⟨hub, brokers, sound⟩ := sound_run capacity steps
  constructor
  · exact (routed.offered_ordered id).sublist (enqueued_sublist _ id)
  · intro n message member
    obtain ⟨broker, client, bytes, scope, here, found, known, decoded, accepts⟩ :=
      routed.origin id n message (mem_enqueued.mp member)
    obtain ⟨write, there, carries⟩ := sound.carries known decoded
    exact ⟨broker, client, write, scope, here, found, there, carries, by
      simpa [Client.accepts] using accepts⟩

end Chronicle

end Fanout
