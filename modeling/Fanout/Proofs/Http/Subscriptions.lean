import Fanout.Proofs.Http.Tracking

/-! Event streams as subscriptions. A request for events leaves the network as a subscription does, and
from then on its body has the frames of what its client receives, and ends where its client finds the
end. -/

namespace Fanout.Http

/-- The frames of the messages that were received. -/
def framesOf (found : List (Except QueueEnd Message)) : List Bytes :=
  found.filterMap fun item => item.toOption.map frame

theorem framesOf_append (found later : List (Except QueueEnd Message)) :
    framesOf (found ++ later) = framesOf found ++ framesOf later :=
  List.filterMap_append

namespace Body

/-- A body has gone on to another state, while its client has received this. -/
structure Carries (body : Body) (found : List (Except QueueEnd Message)) (after : Body) : Prop where
  stream : after.stream = body.stream
  frames : after.frames = body.frames ++ framesOf found
  ended : after.ended = true ↔ body.ended = true ∨ .error .closed ∈ found

variable {body between after : Body} {found later : List (Except QueueEnd Message)}

theorem carries_nothing (stream : after.stream = body.stream) (frames : after.frames = body.frames)
    (ended : after.ended = body.ended) : body.Carries [] after := by
  constructor
  · exact stream
  · rw [frames]
    exact (List.append_nil _).symm
  · simp [ended]

theorem Carries.trans (first : body.Carries found between) (second : between.Carries later after) :
    body.Carries (found ++ later) after := by
  constructor
  · rw [second.stream, first.stream]
  · rw [second.frames, first.frames, framesOf_append, List.append_assoc]
  · rw [second.ended, first.ended, List.mem_append, or_assoc]

end Body

namespace Site

variable {site : Site} {place : Nat} {body : Body}

theorem receives_leave (id other : ClientId) : ∀ act ∈ leave id, act.receives other = false := by
  intro act member
  simp only [leave, List.mem_cons, List.not_mem_nil, or_false] at member
  rcases member with rfl | rfl <;> rfl

theorem receives_polling_other {network : Network} {id other : ClientId} (different : id ≠ other) :
    ∀ act ∈ polling network id, act.receives other = false := by
  intro act member
  rcases List.mem_cons.mp member with rfl | later
  · exact decide_eq_false different
  · split at later
    · exact receives_leave id other act later
    · contradiction

theorem received_polling (network : Network) (id : ClientId) :
    network.received id (polling network id) = [network.findable id] := by
  have silent : ∀ act ∈ (if network.findable id = .error .closed then leave id else []),
      act.receives id = false := by
    intro act member
    split at member
    · exact receives_leave id id act member
    · contradiction
  rw [polling, Network.received, Network.received_of_silent silent, List.append_nil]
  exact if_pos (decide_eq_true rfl)

theorem receives_asking (network : Network) (broker : Nat) (method scope : String)
    (id : ClientId) : ∀ act ∈ asking network broker method scope, act.receives id = false := by
  intro act member
  rcases List.mem_cons.mp member with rfl | later
  · rfl
  · split at later
    · cases joins : network.joins? (.on 0 (.subscribe broker scope)) with
      | none =>
        rw [joins] at later
        contradiction
      | some joined =>
        rw [joins] at later
        exact receives_leave joined id act later
    · contradiction

/-- The bodies that are there remain the same while a request is answered. -/
theorem body_request (here : site.bodies[place]? = some body) (broker : Nat)
    (method target : String) : (site.request broker method target).bodies[place]? = some body := by
  cases asked : asked? method target with
  | none => rw [request_not_asked asked, here]
  | some scope =>
    cases found : site.network.subscribe broker scope with
    | none => rw [request_refused asked found, here]
    | some joined =>
      rw [request_joined asked found]
      split
      · exact here
      · rw [List.getElem?_append_left (List.getElem?_eq_some_iff.mp here).1, here]

/-- A poll takes what the client of the body receives. -/
theorem carries_poll (listed : site.Listed) (here : site.bodies[place]? = some body)
    (other : Nat) : ∃ after, (site.poll other).bodies[place]? = some after ∧
      body.Carries (site.network.received body.stream.client (site.acts (.poll other))) after := by
  have inside := (List.getElem?_eq_some_iff.mp here).1
  have still : body.Carries [] body := Body.carries_nothing rfl rfl rfl
  simp only [Site.poll, acts]
  cases there : site.bodies[other]? with
  | none => exact ⟨body, here, still⟩
  | some found =>
    simp only
    split
    · rename_i held
      by_cases same : other = place
      · subst same
        cases here.symm.trans there
        simp only [poll_value, received_polling]
        refine ⟨_, List.getElem?_set_self inside, ?_⟩
        cases site.network.findable body.stream.client with
        | ok message => exact ⟨rfl, rfl, by simp [Body.polled]⟩
        | error ending =>
          cases ending with
          | empty | closed => exact ⟨rfl, (List.append_nil _).symm, by simp [Body.polled]⟩
      · have different := listed.body_ne there here same
        rw [Network.received_of_silent (receives_polling_other different)]
        exact ⟨body, by rw [List.getElem?_set_ne same, here], still⟩
    · exact ⟨body, here, still⟩

theorem carries_drop (here : site.bodies[place]? = some body) (other : Nat) :
    ∃ after, (site.drop other).bodies[place]? = some after ∧
      body.Carries (site.network.received body.stream.client (site.acts (.drop other))) after := by
  have inside := (List.getElem?_eq_some_iff.mp here).1
  have still : body.Carries [] body := Body.carries_nothing rfl rfl rfl
  simp only [Site.drop, acts]
  cases there : site.bodies[other]? with
  | none => exact ⟨body, here, still⟩
  | some found =>
    simp only
    split
    · rw [Network.received_of_silent (receives_leave _ _)]
      by_cases same : other = place
      · subst same
        cases here.symm.trans there
        exact ⟨_, List.getElem?_set_self inside, Body.carries_nothing rfl rfl rfl⟩
      · exact ⟨body, by rw [List.getElem?_set_ne same, here], still⟩
    · exact ⟨body, here, still⟩

/-- In every move, each body goes on by what its client receives in the acts of the move. -/
theorem carries_move (listed : site.Listed) (here : site.bodies[place]? = some body)
    (move : Move) : ∃ after, (site.move move).bodies[place]? = some after ∧
      body.Carries (site.network.received body.stream.client (site.acts move)) after := by
  have still : body.Carries [] body := Body.carries_nothing rfl rfl rfl
  cases move with
  | poll other => exact carries_poll listed here other
  | drop other => exact carries_drop here other
  | call act =>
    simp only [Site.move, acts]
    split
    · rename_i allowed
      have other := listed.holder_ne allowed (List.mem_of_getElem? here)
      have silent : ∀ made ∈ [act], made.receives body.stream.client = false := by
        intro made member
        cases List.mem_singleton.mp member
        exact Act.receives_of_not_held other
      rw [Network.received_of_silent silent]
      simp only [Site.call, List.getElem?_map, here]
      exact ⟨_, rfl, Body.carries_nothing rfl rfl rfl⟩
    · exact ⟨body, here, still⟩
  | request broker method target =>
    refine ⟨body, body_request here broker method target, ?_⟩
    simp only [acts]
    cases asked? method target with
    | none => exact still
    | some scope =>
      rw [Option.elim_some, Network.received_of_silent (receives_asking _ _ _ _ _)]
      exact still

/-- In a run, each body has the frames of what its client receives, and it ends when its client finds
the end. -/
theorem carries_moves (listed : site.Listed) (here : site.bodies[place]? = some body)
    (moves : List Move) : ∃ after, (site.moves moves).bodies[place]? = some after ∧
      body.Carries (site.network.received body.stream.client (site.allActs moves)) after := by
  induction moves generalizing site body with
  | nil => exact ⟨body, here, Body.carries_nothing rfl rfl rfl⟩
  | cons move moves ih =>
    obtain ⟨between, there, first⟩ := carries_move listed here move
    obtain ⟨after, last, second⟩ := ih (listed.move move) there
    rw [first.stream, network_move] at second
    refine ⟨after, last, ?_⟩
    rw [allActs, Network.received_append]
    exact first.trans second

/-! ## Requests -/

/-- A request that gets through has a target that can be read. -/
theorem asked_of_handle {broker : Nat} {target scope : String}
    {answered : Logged (Network × Answer)} (asks : Asks target scope)
    (handled : handle site.network broker "GET" target = .ok answered) :
    asked? "GET" target = some scope := by
  have named : checkMethod "GET" = .ok () := by decide
  cases read : Target.ofBytes (Utf8.encode target) with
  | error fault =>
    simp only [handle, named, read, bind, Except.bind] at handled
    contradiction
  | ok found => exact asks.asked named (.inl rfl) read

/-- What a request does to a site that has these effects: it is a subscription for a scope, and the
client it makes is read through a new body. -/
structure Opens (site : Site) (broker : Nat) (scope : String) (id : ClientId) (after : Site) :
    Prop where
  subscribes : after.network = site.network.act (.on 0 (.subscribe broker scope))
  /-- There is a new client for the scope, and it is registered if the broker is not closed. -/
  joins : ∃ before, site.network.brokers[broker]? = some before ∧
    id = ⟨broker, before.registry.clients.length⟩ ∧
    after.network.brokers[broker]? = some { before with
      registry := { before.registry with
        clients := before.registry.clients
          ++ [{ Client.opened scope with registered := !before.closed }] } }
  /-- In every run from then on, the body has the frames of what the client receives, and it has ended
  as soon as the client has found the end. -/
  carries : ∀ moves, ∃ body, (after.moves moves).bodies[site.bodies.length]? = some body ∧
    body.stream.client = id ∧
    body.frames = framesOf (after.network.received id (after.allActs moves)) ∧
    (body.ended = true ↔ .error .closed ∈ after.network.received id (after.allActs moves))

theorem opens_request {broker : Nat} {target scope : String}
    {answered : Logged (Network × Answer)} (listed : site.Listed)
    (asked : asked? "GET" target = some scope)
    (handled : handle site.network broker "GET" target = .ok answered)
    (succeeds : answered.value.2.status? ≠ none) :
    ∃ id, site.Opens broker scope id (site.request broker "GET" target) := by
  obtain ⟨answered', handled', same⟩ := handle_of_asked site.network broker asked
  cases handled.symm.trans handled'
  cases found : site.network.subscribe broker scope with
  | none =>
    simp [same, streamed, found, Answer.status?] at succeeds
  | some joined =>
    have subscribed := Network.subscribed_eq found 0
    have requested := request_joined asked found
    have after := listed.request broker "GET" target
    refine ⟨joined.value.2, ?_⟩
    rw [if_neg (by decide)] at requested
    rw [requested] at after ⊢
    constructor
    case subscribes => exact subscribed
    case joins =>
      have names : (Act.on 0 (.subscribe broker scope)).broker? = some broker := rfl
      cases here : site.network.brokers[broker]? with
      | none => simp [Network.subscribe, here] at found
      | some before =>
        have there := Network.broker_act (.on 0 (.subscribe broker scope)) here
        have joins := Network.joins?_subscribe here 0 scope
        rw [Network.joins?_of_subscribe found] at joins
        split at joins
        · contradiction
        · rename_i fits
          rw [if_pos names, Broker.perform_subscribe, Broker.joined, if_neg fits, ← subscribed]
            at there
          rw [Broker.members, List.length_map] at joins
          exact ⟨before, rfl, Option.some.inj joins, there⟩
    case carries =>
      intro moves
      obtain ⟨body, there, carried⟩ := carries_moves after (List.getElem?_concat_length ..) moves
      exact ⟨body, there, congrArg EventStream.client carried.stream, carried.frames,
        by simpa using carried.ended⟩

/-- A request that is answered with an error changes nothing. -/
theorem request_error {broker : Nat} {method target : String}
    {answered : Logged (Network × Answer)} {status : Nat}
    (handled : handle site.network broker method target = .ok answered)
    (answers : answered.value.2.status? = some status) (error : 400 ≤ status) :
    site.request broker method target = site := by
  cases asked : asked? method target with
  | none => exact request_not_asked asked
  | some scope =>
    obtain ⟨answered', handled', same⟩ := handle_of_asked site.network broker asked
    cases handled.symm.trans handled'
    cases found : site.network.subscribe broker scope with
    | none => exact request_refused asked found
    | some joined =>
      rw [same, streamed, found] at answers
      have good : status = 200 := by
        simp only at answers
        split at answers <;> exact (Option.some.inj answers).symm
      omega

/-- The clients of a broker are the guests that have not left and the bodies that are open. -/
theorem Listed.clientCount_eq (listed : site.Listed) {index : Nat} {broker : Broker}
    (here : site.network.brokers[index]? = some broker) : broker.clientCount
      = site.guests.countP (fun guest => decide (guest.id.registry = index) && !guest.removed)
        + site.bodies.countP fun body =>
          decide (body.stream.client.registry = index) && body.isOpen := by
  rw [Network.clientCount_eq_of_listed here listed.lists.once listed.lists.registered, ids,
    List.countP_append, List.countP_map, List.countP_map]
  congr 1
  · refine List.countP_congr fun guest member => ?_
    rw [Function.comp, listed.guests guest member]
  · refine List.countP_congr fun body member => ?_
    rw [Function.comp, listed.bodies body member]

/-- In every run, a request for events that succeeds is a subscription, one that fails changes
nothing, and a broker has as many clients as there are guests that have not left and bodies that are
open. -/
theorem requests_subscribe (fabric : Fabric) (moves : List Move) :
    (∀ broker target scope answered, Asks target scope →
      handle ((new fabric).moves moves).network broker "GET" target = .ok answered →
      (∃ status, answered.value.2.status? = some status ∧ status < 400) →
      ∃ id, ((new fabric).moves moves).Opens broker scope id
        (((new fabric).moves moves).request broker "GET" target)) ∧
    (∀ broker method target answered status,
      handle ((new fabric).moves moves).network broker method target = .ok answered →
      answered.value.2.status? = some status → 400 ≤ status →
      ((new fabric).moves moves).request broker method target = (new fabric).moves moves) ∧
    ∀ index broker, ((new fabric).moves moves).network.brokers[index]? = some broker →
      broker.clientCount = ((new fabric).moves moves).guests.countP
          (fun guest => decide (guest.id.registry = index) && !guest.removed)
        + ((new fabric).moves moves).bodies.countP
          fun body => decide (body.stream.client.registry = index) && body.isOpen := by
  have listed := (listed_new fabric).moves moves
  refine ⟨?_, ?_, ?_⟩
  · intro broker target scope answered asks handled ⟨status, answers, _⟩
    refine opens_request listed (asked_of_handle asks handled) handled ?_
    rw [answers]
    exact Option.some_ne_none status
  · intro broker method target answered status handled answers error
    exact request_error handled answers error
  · intro index broker here
    exact listed.clientCount_eq here

/-- A site with a broker that nobody has called yet. -/
def idle : Site := (new (Network.onHub (.new 4) []).fabric).moves
  [.call (.on 0 (.start ⟨"room", 1⟩))]

/-- The blank of a scope is written as a plus sign. -/
theorem asks_blank : Asks "/events?scope=a+b" "a b" := by
  refine .scope (q := Utf8.encode "a+b") rfl ?_
  exact .plain (by decide) (.plus (.plain (by decide) .nil))

theorem asked_blank : asked? "GET" "/events?scope=a+b" = some "a b" :=
  asks_blank.asked (by decide) (.inl rfl) rfl

theorem requests_subscribe_blank :
    (∃ id, idle.Opens 0 "a b" id (idle.request 0 "GET" "/events?scope=a+b")) ∧
    idle.request 0 "GET" "/nowhere" = idle ∧
    ∃ broker, idle.network.brokers[0]? = some broker ∧ broker.clientCount = 0 := by
  obtain ⟨opens, unchanged, counts⟩ := requests_subscribe (Network.onHub (.new 4) []).fabric
    [.call (.on 0 (.start ⟨"room", 1⟩))]
  refine ⟨?_, ?_, ?_⟩
  · obtain ⟨answered, handled, same⟩ := handle_of_asked idle.network 0 asked_blank
    refine opens 0 _ _ answered asks_blank handled ⟨200, ?_, by decide⟩
    rw [same]
    rfl
  · exact unchanged 0 "GET" "/nowhere" _ 404 rfl rfl (by decide)
  · exact ⟨_, rfl, counts 0 _ rfl⟩

end Site

end Fanout.Http
