import Fanout.Proofs.Http.Request
import Fanout.Proofs.Network.Closing
import Fanout.Proofs.Network.Membership

/-! A network that is used directly and through requests at once. Every move of such a site comes to
some acts on the network: a request for events subscribes, a poll of a body receives, and a body that
ends or is dropped gives its client up. -/

namespace Fanout.Http

/-- A client that was subscribed without a request. -/
structure Guest where
  id : ClientId
  /-- Whether it left since, or was not let in. -/
  removed : Bool

/-- The body of a response that is an event stream, with the frames that were taken from it. -/
structure Body where
  stream : EventStream
  frames : List Bytes
  ended : Bool
  /-- Whether the response is gone. -/
  dropped : Bool
  /-- Whether its broker is closed. -/
  closed : Bool

namespace Body

/-- Whether the body can be polled. -/
def isHeld (body : Body) : Bool := !body.ended && !body.dropped

def isOpen (body : Body) : Bool := body.isHeld && !body.closed

def polled (body : Body) : Poll → Body
  | .frame text => { body with frames := body.frames ++ [text] }
  | .pending => body
  | .ended => { body with ended := true }

end Body

structure Site where
  network : Network
  guests : List Guest
  /-- The bodies of all responses so far that are event streams. -/
  bodies : List Body

inductive Move where
  /-- An act without a request. -/
  | call (act : Act)
  /-- A request to a broker. -/
  | request (broker : Nat) (method target : String)
  | poll (body : Nat)
  /-- A response is dropped, at whatever point its body is. -/
  | drop (body : Nat)

namespace Site

def new (fabric : Fabric) : Site := ⟨⟨fabric, []⟩, [], []⟩

/-- Whether callers can make an act: only who has subscribed a client holds it. -/
def allows (site : Site) (act : Act) : Bool :=
  act.holder?.all fun id => site.guests.any (·.id = id)

def call (site : Site) (act : Act) : Site where
  network := site.network.act act
  guests := site.guests.map (fun guest =>
      { guest with removed := guest.removed || act.removes guest.id })
    ++ ((site.network.joins? act).map fun id => ⟨id, site.network.isClosed id.registry⟩).toList
  bodies := site.bodies.map fun body =>
    { body with closed := body.closed || act.closes body.stream.client.registry }

def request (site : Site) (broker : Nat) (method target : String) : Site :=
  match handle site.network broker method target with
  | .error _ => site
  | .ok answered =>
    match answered.value with
    | (network, .streaming _ (some stream)) =>
      { site with
        network
        bodies := site.bodies ++ [⟨stream, [], false, false, site.network.isClosed broker⟩] }
    | (network, _) => { site with network }

def poll (site : Site) (place : Nat) : Site :=
  match site.bodies[place]? with
  | none => site
  | some body =>
    if body.isHeld then
      let polled := (body.stream.poll site.network).value
      { site with network := polled.1, bodies := site.bodies.set place (body.polled polled.2) }
    else site

def drop (site : Site) (place : Nat) : Site :=
  match site.bodies[place]? with
  | none => site
  | some body =>
    if body.isHeld then
      { site with
        network := (body.stream.drop site.network).value
        bodies := site.bodies.set place { body with dropped := true } }
    else site

def move (site : Site) : Move → Site
  | .call act => if site.allows act then site.call act else site
  | .request broker method target => site.request broker method target
  | .poll place => site.poll place
  | .drop place => site.drop place

def moves (site : Site) (moves : List Move) : Site := moves.foldl move site

/-! ## The acts of a move -/

/-- Whoever holds a client gives it up with its receiver. -/
def leave (id : ClientId) : List Act := [.on 0 (.dropHandle id), .on 0 (.dropReceiver id)]

/-- What a request for the events of a scope does: it subscribes, and leaves at once if its method
wants no body. -/
def asking (network : Network) (broker : Nat) (method scope : String) : List Act :=
  .on 0 (.subscribe broker scope) ::
    if method = "HEAD" then (network.joins? (.on 0 (.subscribe broker scope))).elim [] leave else []

/-- What a poll does: it receives, and leaves if there is nothing to receive any more. -/
def polling (network : Network) (id : ClientId) : List Act :=
  .on 0 (.receive id) :: if network.findable id = .error .closed then leave id else []

/-- The acts on the network that a move comes to. -/
def acts (site : Site) : Move → List Act
  | .call act => if site.allows act then [act] else []
  | .request broker method target =>
    (asked? method target).elim [] (asking site.network broker method)
  | .poll place =>
    match site.bodies[place]? with
    | none => []
    | some body => if body.isHeld then polling site.network body.stream.client else []
  | .drop place =>
    match site.bodies[place]? with
    | none => []
    | some body => if body.isHeld then leave body.stream.client else []

/-- The acts that a run of moves comes to. -/
def allActs (site : Site) : List Move → List Act
  | [] => []
  | move :: moves => site.acts move ++ (site.move move).allActs moves

end Site

variable {network : Network} {stream : EventStream}

/-! ## The network behind a move -/

theorem drop_value (network : Network) (stream : EventStream) :
    (stream.drop network).value = network.acts (Site.leave stream.client) := by
  unfold EventStream.drop
  cases here : network.brokers[stream.client.registry]? with
  | none =>
    have gone (step : Step) (names : step.broker? = some stream.client.registry) :
        network.act (.on 0 step) = network := Network.act_of_absent names here
    simp only [Logged.value_pure, Network.acts, Site.leave, List.foldl_cons, List.foldl_nil]
    rw [gone _ rfl, gone _ rfl]
  | some broker =>
    have inside := (List.getElem?_eq_some_iff.mp here).1
    simp [Network.acts, Site.leave, Network.act, Network.step, Network.onRegistry, here,
      Network.setBroker, List.getElem?_set_self inside]

theorem findable_eq {broker : Broker} (here : network.brokers[stream.client.registry]? = some broker) :
    network.findable stream.client = (broker.registry.receive stream.client.serial).2 := by
  rw [Network.findable, here]
  rfl

theorem poll_value (network : Network) (stream : EventStream) :
    (stream.poll network).value = (network.acts (Site.polling network stream.client),
      match network.findable stream.client with
      | .ok message => .frame (frame message)
      | .error .empty => .pending
      | .error .closed => .ended) := by
  unfold EventStream.poll
  cases here : network.brokers[stream.client.registry]? with
  | none =>
    have gone (step : Step) (names : step.broker? = some stream.client.registry) :
        network.act (.on 0 step) = network := Network.act_of_absent names here
    have found : network.findable stream.client = .error .closed := by
      rw [Network.findable, here]
      rfl
    simp only [Logged.value_pure, Site.polling, found, if_true, Network.acts, Site.leave,
      List.foldl_cons, List.foldl_nil]
    rw [gone _ rfl, gone _ rfl, gone _ rfl]
  | some broker =>
    have found := findable_eq here
    have received : network.act (.on 0 (.receive stream.client))
        = network.setBroker stream.client.registry
          { broker with registry := (broker.registry.receive stream.client.serial).1 } := by
      simp only [Network.act, Network.step, Network.onRegistry, here]
    simp only [Site.polling, found]
    generalize broker.registry.receive stream.client.serial = outcome at received ⊢
    obtain ⟨registry, outcome⟩ := outcome
    simp only at received ⊢
    cases outcome with
    | ok message => simp [Network.acts, received]
    | error ending =>
      cases ending with
      | empty => simp [Network.acts, received]
      | closed =>
        simp only [Logged.value_bind, Logged.value_pure, drop_value, if_true, ← received]
        rfl

namespace Site

variable {site : Site} {broker : Nat} {method target scope : String}

theorem request_not_asked (other : asked? method target = none) :
    site.request broker method target = site := by
  unfold request
  rcases handle_of_not_asked other with ⟨fault, refused⟩ | ⟨answered, response, plain, same⟩
  · rw [refused]
  · rw [plain]
    simp only [same]

theorem request_refused (asked : asked? method target = some scope)
    (refused : site.network.subscribe broker scope = none) :
    site.request broker method target = site := by
  obtain ⟨answered, handled, same⟩ := handle_of_asked site.network broker asked
  unfold request
  rw [handled]
  simp only [same, streamed, refused]

/-- A request for events makes one new body, or none if its method wants no body. -/
theorem request_joined {joined : Logged (Network × ClientId)}
    (asked : asked? method target = some scope)
    (joins : site.network.subscribe broker scope = some joined) :
    site.request broker method target = if method = "HEAD" then
        { site with network := joined.value.1.acts (leave joined.value.2) }
      else
        { site with
          network := joined.value.1
          bodies := site.bodies
            ++ [⟨⟨joined.value.2, scope⟩, [], false, false, site.network.isClosed broker⟩] } := by
  obtain ⟨answered, handled, same⟩ := handle_of_asked site.network broker asked
  unfold request
  rw [handled]
  by_cases head : method = "HEAD"
  · simp only [same, streamed, joins, head, if_true, drop_value]
  · simp only [same, streamed, joins, head, if_false]

/-- A move does to the network what its acts do. -/
theorem network_move (site : Site) (move : Move) :
    (site.move move).network = site.network.acts (site.acts move) := by
  cases move with
  | call act =>
    simp only [Site.move, Site.acts]
    split <;> rfl
  | drop place =>
    simp only [Site.move, Site.acts, Site.drop]
    split
    · rfl
    · split
      · exact drop_value ..
      · rfl
  | poll place =>
    simp only [Site.move, Site.acts, Site.poll]
    split
    · rfl
    · split
      · rw [poll_value]
      · rfl
  | request broker method target =>
    simp only [Site.move, Site.acts]
    cases asked : asked? method target with
    | none =>
      rw [request_not_asked asked]
      rfl
    | some scope =>
      have subscribed : site.network.act (.on 0 (.subscribe broker scope))
          = (site.network.subscribe broker scope).elim site.network (·.value.1) := rfl
      have joins : site.network.joins? (.on 0 (.subscribe broker scope))
          = (site.network.subscribe broker scope).map (·.value.2) := rfl
      cases found : site.network.subscribe broker scope with
      | none =>
        rw [found] at subscribed joins
        rw [request_refused asked found]
        simp [asking, joins, Network.acts, subscribed]
      | some joined =>
        rw [found] at subscribed joins
        rw [request_joined asked found]
        by_cases head : method = "HEAD" <;>
          simp [asking, joins, Network.acts, subscribed, head]

theorem network_moves (site : Site) (moves : List Move) :
    (site.moves moves).network = site.network.acts (site.allActs moves) := by
  induction moves generalizing site with
  | nil => rfl
  | cons move moves ih =>
    rw [allActs, Network.acts_append, ← network_move]
    exact ih (site.move move)

end Site

end Fanout.Http
