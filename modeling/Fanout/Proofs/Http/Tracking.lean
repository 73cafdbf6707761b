import Fanout.Proofs.Http.Site

/-! What a site knows of its clients. Every client belongs to one guest or to one body, and a client is
registered exactly as long as its guest has not left, or its body is open. Each body carries what its
client received in the acts of the run. -/

namespace Fanout

/-! ## Acts without effect on a client -/

namespace Act

variable {act : Act} {id : ClientId}

theorem removes_of_not_held (other : act.holder? ≠ some id) :
    act.removes id = act.closes id.registry := by
  cases act with
  | closing j | stop bus => rfl
  | on bus step =>
    cases step with
    | start | write | shutdown | publish | turn | subscribe | close | dropReceiver | receive => rfl
    | unsubscribe left | dropHandle left =>
      exact decide_eq_false fun same => other (by rw [← same]; rfl)

theorem receives_of_not_held (other : act.holder? ≠ some id) : act.receives id = false := by
  cases looks : act.receives id with
  | false => rfl
  | true =>
    obtain ⟨bus, rfl⟩ := Act.eq_receive looks
    exact absurd rfl other

end Act

namespace Network

variable {network : Network} {id other : ClientId}

theorem isKnown_acts (acts : List Act) (known : network.isKnown id = true) :
    (network.acts acts).isKnown id = true := by
  induction acts generalizing network with
  | nil => exact known
  | cons act acts ih =>
    refine ih ?_
    rw [isKnown_act, known, Bool.true_or]

theorem isRegistered_leave (network : Network) (id other : ClientId) :
    (network.acts (Http.Site.leave id)).isRegistered other
      = (network.isRegistered other && decide (other ≠ id)) := by
  simp only [acts, Http.Site.leave, List.foldl_cons, List.foldl_nil, isRegistered_act]
  simp [joins?, Act.removes, Act.closes, eq_comm]

theorem isRegistered_receive (network : Network) (id other : ClientId) :
    (network.act (.on 0 (.receive id))).isRegistered other = network.isRegistered other := by
  rw [isRegistered_act]
  simp [joins?, Act.removes, Act.closes]

/-- These are the clients that belong to somebody: all of them have subscribed, and all registered
ones are among them. -/
structure Lists (network : Network) (ids : List ClientId) : Prop where
  once : ids.Nodup
  known : ∀ id ∈ ids, network.isKnown id = true
  registered : ∀ id, network.isRegistered id = true → id ∈ ids

variable {ids ids' : List ClientId}

/-- A client that joins is not among the others. -/
theorem Lists.not_mem (lists : network.Lists ids) {act : Act} (joins : network.joins? act = some id) :
    id ∉ ids := by
  intro member
  have unknown := not_isKnown_of_joins? joins
  rw [lists.known id member] at unknown
  contradiction

theorem Lists.act (lists : network.Lists ids) (act : Act)
    (with_joined : ids'.Perm ((network.joins? act).toList ++ ids)) :
    (network.act act).Lists ids' := by
  constructor
  case once =>
    rw [with_joined.nodup_iff]
    cases joins : network.joins? act with
    | none => exact lists.once
    | some id => exact List.nodup_cons.mpr ⟨lists.not_mem joins, lists.once⟩
  case known =>
    intro id member
    rw [with_joined.mem_iff, List.mem_append, Option.mem_toList] at member
    rw [isKnown_act, Bool.or_eq_true, decide_eq_true_eq]
    exact member.elim .inr fun old => .inl (lists.known id old)
  case registered =>
    intro id still
    rw [with_joined.mem_iff, List.mem_append, Option.mem_toList]
    simp only [isRegistered_act, Bool.or_eq_true, Bool.and_eq_true, decide_eq_true_eq] at still
    exact still.elim (fun old => .inr (lists.registered id old.1)) fun new => .inl new.1

theorem Lists.act_of_none (lists : network.Lists ids) {act : Act}
    (nobody : network.joins? act = none) : (network.act act).Lists ids :=
  lists.act act (by rw [nobody]; exact .refl _)

theorem Lists.leave (lists : network.Lists ids) (id : ClientId) :
    (network.acts (Http.Site.leave id)).Lists ids := by
  have left : (network.act (.on 0 (.dropHandle id))).Lists ids := lists.act_of_none rfl
  have gone : ((network.act (.on 0 (.dropHandle id))).act (.on 0 (.dropReceiver id))).Lists ids :=
    left.act_of_none rfl
  exact gone

/-- A client that leaves no longer counts. -/
theorem Lists.left (lists : network.Lists (id :: ids)) :
    (network.acts (Http.Site.leave id)).Lists ids := by
  have still := lists.leave id
  refine ⟨(List.nodup_cons.mp lists.once).2, fun other member =>
    still.known other (List.mem_cons_of_mem _ member), fun other registered => ?_⟩
  have member := still.registered other registered
  rw [isRegistered_leave, Bool.and_eq_true, decide_eq_true_eq] at registered
  exact (List.mem_cons.mp member).resolve_left registered.2

theorem Lists.isRegistered_left (lists : network.Lists (id :: ids)) (member : other ∈ ids) :
    (network.acts (Http.Site.leave id)).isRegistered other = network.isRegistered other := by
  have different : other ≠ id := fun same => (List.nodup_cons.mp lists.once).1 (same ▸ member)
  rw [isRegistered_leave, decide_eq_true different, Bool.and_true]

end Network

namespace Http.Site

variable {site : Site}

/-- All clients that were let in, by guests and by requests that got a body. -/
def ids (site : Site) : List ClientId :=
  site.guests.map (·.id) ++ site.bodies.map (·.stream.client)

/-- Every registered client is that of one guest or one body, which knows that it is registered. -/
structure Listed (site : Site) : Prop where
  lists : site.network.Lists site.ids
  guests : ∀ guest ∈ site.guests, site.network.isRegistered guest.id = !guest.removed
  bodies : ∀ body ∈ site.bodies, site.network.isRegistered body.stream.client = body.isOpen

theorem listed_new (fabric : Fabric) : (new fabric).Listed := by
  refine ⟨⟨List.nodup_nil, ?_, ?_⟩, ?_, ?_⟩
  · intro id member
    contradiction
  · intro id registered
    simp [new, Network.isRegistered] at registered
  · intro guest member
    contradiction
  · intro body member
    contradiction

section Members
variable {guest : Guest} {body : Body} {act : Act}

theorem mem_ids_of_guest (member : guest ∈ site.guests) : guest.id ∈ site.ids :=
  List.mem_append_left _ (List.mem_map_of_mem member)

theorem mem_ids_of_body (member : body ∈ site.bodies) : body.stream.client ∈ site.ids :=
  List.mem_append_right _ (List.mem_map_of_mem member)

theorem Listed.guest_ne_body (listed : site.Listed) (here : guest ∈ site.guests)
    (there : body ∈ site.bodies) : guest.id ≠ body.stream.client :=
  (List.nodup_append.mp listed.lists.once).2.2 _ (List.mem_map_of_mem here) _
    (List.mem_map_of_mem there)

/-- Nobody but a body itself makes acts for its client. -/
theorem Listed.holder_ne (listed : site.Listed) (allowed : site.allows act = true)
    (member : body ∈ site.bodies) : act.holder? ≠ some body.stream.client := by
  intro holds
  simp only [allows, holds, Option.all_some, List.any_eq_true, decide_eq_true_eq] at allowed
  obtain ⟨guest, here, same⟩ := allowed
  exact listed.guest_ne_body here member same

/-- The bodies at two places are those of two clients. -/
theorem Listed.body_ne (listed : site.Listed) {i j : Nat} {first second : Body}
    (here : site.bodies[i]? = some first) (there : site.bodies[j]? = some second)
    (different : i ≠ j) : first.stream.client ≠ second.stream.client := by
  have once := (List.nodup_append.mp listed.lists.once).2.1
  intro same
  refine different ((List.getElem?_inj ?_ once).mp ?_)
  · simpa using (List.getElem?_eq_some_iff.mp here).1
  · simp [here, there, same]

end Members

theorem isRegistered_known {act : Act} {id : ClientId} (listed : site.Listed)
    (member : id ∈ site.ids) : (site.network.act act).isRegistered id
      = (site.network.isRegistered id && !act.removes id) := by
  have old : site.network.joins? act ≠ some id := fun joins => listed.lists.not_mem joins member
  rw [Network.isRegistered_act, decide_eq_false old, Bool.false_and, Bool.or_false]

theorem isRegistered_joined {act : Act} {id : ClientId} (listed : site.Listed)
    (joins : site.network.joins? act = some id) :
    (site.network.act act).isRegistered id = !site.network.isClosed id.registry := by
  have unknown : site.network.isRegistered id = false := by
    cases registered : site.network.isRegistered id with
    | false => rfl
    | true => exact absurd (listed.lists.registered id registered) (listed.lists.not_mem joins)
  rw [Network.isRegistered_act, unknown, joins]
  simp

theorem Listed.call (listed : site.Listed) {act : Act} (allowed : site.allows act = true) :
    (site.call act).Listed := by
  constructor
  case lists =>
    refine listed.lists.act act ?_
    cases joins : site.network.joins? act with
    | none => simp [ids, Site.call, joins, Function.comp_def]
    | some id => simp [ids, Site.call, joins, Function.comp_def, List.perm_middle]
  case guests =>
    intro guest member
    rcases List.mem_append.mp member with old | new
    · obtain ⟨before, here, rfl⟩ := List.mem_map.mp old
      simp only [Site.call]
      rw [isRegistered_known listed (mem_ids_of_guest here), listed.guests before here, Bool.not_or]
    · simp only [Option.mem_toList, Option.map_eq_some_iff] at new
      obtain ⟨id, joins, rfl⟩ := new
      exact isRegistered_joined listed joins
  case bodies =>
    intro body member
    obtain ⟨before, here, rfl⟩ := List.mem_map.mp member
    simp only [Site.call]
    rw [isRegistered_known listed (mem_ids_of_body here), listed.bodies before here,
      Act.removes_of_not_held (listed.holder_ne allowed here), Body.isOpen, Body.isOpen,
      Bool.not_or, Bool.and_assoc]
    rfl

/-- The state of one body and of its client has changed. -/
theorem Listed.set (listed : site.Listed) {network : Network} {place : Nat} {body after : Body}
    (here : site.bodies[place]? = some body) (same : after.stream = body.stream)
    (lists : network.Lists site.ids)
    (own : network.isRegistered body.stream.client = after.isOpen)
    (others : ∀ id, id ≠ body.stream.client →
      network.isRegistered id = site.network.isRegistered id) :
    ({ site with network, bodies := site.bodies.set place after } : Site).Listed := by
  have member := List.mem_of_getElem? here
  constructor
  case lists =>
    have clients : (site.bodies.set place after).map (·.stream.client)
        = site.bodies.map (·.stream.client) := by
      obtain ⟨inside, rfl⟩ := List.getElem?_eq_some_iff.mp here
      apply List.ext_getElem?
      intro i
      simp only [List.getElem?_map, List.getElem?_set]
      split
      · rename_i here
        subst here
        simp [inside, same]
      · rfl
    simpa only [ids, clients] using lists
  case guests =>
    intro guest present
    rw [others guest.id (listed.guest_ne_body present member)]
    exact listed.guests guest present
  case bodies =>
    intro other present
    obtain ⟨i, there⟩ := List.mem_iff_getElem?.mp present
    rcases getElem?_set_cases there with ⟨_, rfl⟩ | ⟨different, before⟩
    · rw [same]
      exact own
    · rw [others _ (listed.body_ne before here different)]
      exact listed.bodies other (List.mem_of_getElem? before)

/-- A body that is let go of gives its client up. -/
theorem Listed.set_left (listed : site.Listed) {place : Nat} {body after : Body}
    (here : site.bodies[place]? = some body) (same : after.stream = body.stream)
    (shut : after.isOpen = false) :
    ({ site with
      network := site.network.acts (leave body.stream.client)
      bodies := site.bodies.set place after } : Site).Listed := by
  refine listed.set here same (listed.lists.leave _) ?_ fun id other => ?_
  · rw [Network.isRegistered_leave, shut]
    simp
  · rw [Network.isRegistered_leave, decide_eq_true other, Bool.and_true]

theorem Listed.drop (listed : site.Listed) (place : Nat) : (site.drop place).Listed := by
  unfold Site.drop
  split
  · exact listed
  · rename_i body here
    split
    · rw [drop_value]
      exact listed.set_left here rfl (by simp [Body.isOpen, Body.isHeld])
    · exact listed

theorem Listed.receive (listed : site.Listed) (id : ClientId) :
    ({ site with network := site.network.act (.on 0 (.receive id)) } : Site).Listed := by
  have lists : (site.network.act (.on 0 (.receive id))).Lists site.ids :=
    listed.lists.act_of_none rfl
  refine ⟨lists, fun guest member => ?_, fun body member => ?_⟩
  · rw [Network.isRegistered_receive, listed.guests guest member]
  · rw [Network.isRegistered_receive, listed.bodies body member]

/-- A body that is neither let go of nor taken up keeps its client. -/
theorem Listed.set_kept (listed : site.Listed) {place : Nat} {body after : Body}
    (here : site.bodies[place]? = some body) (same : after.stream = body.stream)
    (kept : after.isOpen = body.isOpen) :
    ({ site with bodies := site.bodies.set place after } : Site).Listed := by
  refine listed.set here same listed.lists ?_ fun _ _ => rfl
  rw [kept, listed.bodies body (List.mem_of_getElem? here)]

theorem Listed.poll (listed : site.Listed) (place : Nat) : (site.poll place).Listed := by
  unfold Site.poll
  split
  · exact listed
  rename_i body here
  split
  · have received := listed.receive body.stream.client
    simp only [poll_value, polling]
    cases site.network.findable body.stream.client with
    | ok message => exact received.set_kept here rfl rfl
    | error ending =>
      cases ending with
      | empty => exact received.set_kept here rfl rfl
      | closed => exact received.set_left here rfl rfl
  · exact listed

theorem Listed.request (listed : site.Listed) (broker : Nat) (method target : String) :
    (site.request broker method target).Listed := by
  cases asked : asked? method target with
  | none =>
    rw [request_not_asked asked]
    exact listed
  | some scope =>
    cases found : site.network.subscribe broker scope with
    | none =>
      rw [request_refused asked found]
      exact listed
    | some joined =>
      have subscribed := Network.subscribed_eq found 0
      have joins := Network.joins?_of_subscribe found 0
      have lists {ids : List ClientId} (order : ids.Perm (joined.value.2 :: site.ids)) :
          joined.value.1.Lists ids := by
        rw [subscribed]
        refine listed.lists.act _ ?_
        rw [joins]
        exact order
      have old (id : ClientId) (member : id ∈ site.ids) :
          joined.value.1.isRegistered id = site.network.isRegistered id := by
        rw [subscribed, isRegistered_known listed member]
        exact Bool.and_true _
      rw [request_joined asked found]
      split
      · have with_it := lists (.refl _)
        refine ⟨with_it.left, fun guest member => ?_, fun body member => ?_⟩
        · have same := with_it.isRegistered_left (mem_ids_of_guest member)
          rw [same, old _ (mem_ids_of_guest member)]
          exact listed.guests guest member
        · have same := with_it.isRegistered_left (mem_ids_of_body member)
          rw [same, old _ (mem_ids_of_body member)]
          exact listed.bodies body member
      · constructor
        case lists =>
          refine lists ?_
          simp only [ids, List.map_append, ← List.append_assoc]
          exact List.perm_append_singleton ..
        case guests =>
          intro guest member
          rw [old _ (mem_ids_of_guest member)]
          exact listed.guests guest member
        case bodies =>
          intro body member
          rcases List.mem_append.mp member with here | new
          · rw [old _ (mem_ids_of_body here)]
            exact listed.bodies body here
          · cases List.mem_singleton.mp new
            have owner : joined.value.2.registry = broker :=
              Option.some.inj (Network.names_of_joins? joins).symm
            rw [subscribed, isRegistered_joined listed joins, owner]
            rfl

theorem Listed.move (listed : site.Listed) (move : Move) : (site.move move).Listed := by
  cases move with
  | call act =>
    simp only [Site.move]
    split
    · rename_i allowed
      exact listed.call allowed
    · exact listed
  | request broker method target => exact listed.request broker method target
  | poll place => exact listed.poll place
  | drop place => exact listed.drop place

theorem Listed.moves (listed : site.Listed) (moves : List Move) : (site.moves moves).Listed := by
  induction moves generalizing site with
  | nil => exact listed
  | cons move moves ih => exact ih (listed.move move)

end Http.Site

end Fanout
