import Fanout.Proofs.Http.Framing
import Fanout.Proofs.Http.Subscriptions
import Fanout.Proofs.Json.Spacing
import Fanout.Proofs.Network.Contents

/-! What a reader recovers from an event stream: one event for every message that the client of the
stream receives, with the same bytes if the message has no carriage returns, and the same tokens in
any case. -/

namespace Fanout.Http
open Json

/-- What is read of a message: the message, or the same tokens if there are carriage returns. -/
structure ReadsBack (message data : Bytes) : Prop where
  same : 0x0D ∉ message → data = message
  respaced : Respaced .value message data

theorem changesBlanks_recovered : ChangesBlanks fun b => if b = 0x0D then 0x0A else b := by
  constructor
  case blank => simp
  case printed =>
    intro b printed
    refine if_neg ?_
    rintro rfl
    exact printed (by decide)

theorem readsBack_recovered {message : Message} (passable : Passable message) :
    ReadsBack message (recovered message) := by
  constructor
  case same => exact recovered_of_not_mem
  case respaced => exact passable.spells.respaced changesBlanks_recovered

/-- From frames, each message is read back in its place. -/
theorem readsBack_readEvents {messages : List Message}
    (passable : ∀ message ∈ messages, Passable message) {s : Bytes}
    (streams : Interspersed (messages.map frame) s) :
    List.Forall₂ ReadsBack messages (readEvents s) := by
  rw [streams.readEvents, List.forall₂_map_right_iff, List.forall₂_same]
  intro message member
  exact readsBack_recovered (passable message member)

/-! ## Bodies from their beginning on -/

/-- A body has the frames of what was found, and it has ended if the end was. -/
structure Body.Has (body : Body) (found : List (Except QueueEnd Message)) : Prop where
  frames : body.frames = framesOf found
  ended : body.ended = true ↔ .error .closed ∈ found

theorem Body.Has.carries {body after : Body} {found later : List (Except QueueEnd Message)}
    (has : body.Has found) (carries : body.Carries later after) : after.Has (found ++ later) := by
  constructor
  · rw [carries.frames, has.frames, framesOf_append]
  · rw [carries.ended, has.ended, List.mem_append]

theorem framesOf_eq (found : List (Except QueueEnd Message)) :
    framesOf found = (found.filterMap (·.toOption)).map frame := by
  rw [framesOf, List.map_filterMap]

namespace Site

variable {site : Site}

theorem moves_concat (site : Site) (moves : List Move) (move : Move) :
    site.moves (moves ++ [move]) = (site.moves moves).move move :=
  List.foldl_append

theorem allActs_concat (site : Site) (moves : List Move) (move : Move) :
    site.allActs (moves ++ [move]) = site.allActs moves ++ (site.moves moves).acts move := by
  induction moves generalizing site with
  | nil => exact List.append_nil _
  | cons first moves ih =>
    rw [List.cons_append, allActs, ih, allActs, List.append_assoc]
    rfl

/-- Only clients that belong to somebody receive. -/
theorem mem_ids_of_receives {move : Move} {act : Act} {id : ClientId}
    (member : act ∈ site.acts move) (receives : act.receives id = true) : id ∈ site.ids := by
  cases move with
  | call made =>
    simp only [acts] at member
    split at member
    · rename_i allowed
      cases List.mem_singleton.mp member
      obtain ⟨bus, rfl⟩ := Act.eq_receive receives
      simp only [allows, Act.holder?, Option.all_some, List.any_eq_true,
        decide_eq_true_eq] at allowed
      obtain ⟨guest, here, rfl⟩ := allowed
      exact mem_ids_of_guest here
    · contradiction
  | request broker method target =>
    simp only [acts] at member
    cases asked : asked? method target with
    | none =>
      rw [asked] at member
      contradiction
    | some scope =>
      rw [asked] at member
      rw [receives_asking _ _ _ _ _ act member] at receives
      contradiction
  | poll place =>
    simp only [acts] at member
    split at member
    · contradiction
    · rename_i body here
      split at member
      · by_cases same : body.stream.client = id
        · exact same ▸ mem_ids_of_body (List.mem_of_getElem? here)
        · rw [receives_polling_other same act member] at receives
          contradiction
      · contradiction
  | drop place =>
    simp only [acts] at member
    split at member
    · contradiction
    · split at member
      · rw [receives_leave _ _ act member] at receives
        contradiction
      · contradiction

/-- Nothing is received for a client that has not subscribed yet. -/
theorem received_stranger (listed : site.Listed) {moves : List Move} {id : ClientId}
    (stranger : (site.moves moves).network.isKnown id = false) :
    site.network.received id (site.allActs moves) = [] := by
  induction moves generalizing site with
  | nil => rfl
  | cons move moves ih =>
    have silent : ∀ act ∈ site.acts move, act.receives id = false := by
      intro act member
      cases receives : act.receives id with
      | false => rfl
      | true =>
        have known := listed.lists.known id (mem_ids_of_receives member receives)
        have still := Network.isKnown_acts (site.allActs (move :: moves)) known
        rw [← network_moves, stranger] at still
        contradiction
    rw [allActs, Network.received_append, Network.received_of_silent silent, List.nil_append,
      ← network_move]
    exact ih (listed.move move) stranger

/-- Requests alone make bodies. -/
theorem length_bodies_move {move : Move}
    (other : ∀ broker method target, move ≠ .request broker method target) :
    (site.move move).bodies.length = site.bodies.length := by
  cases move with
  | request broker method target => exact absurd rfl (other broker method target)
  | call act =>
    simp only [Site.move]
    split
    · exact List.length_map ..
    · rfl
  | poll place =>
    simp only [Site.move, Site.poll]
    split
    · rfl
    · split
      · exact List.length_set ..
      · rfl
  | drop place =>
    simp only [Site.move, Site.drop]
    split
    · rfl
    · split
      · exact List.length_set ..
      · rfl

/-- A body that was not there before a move is the body of a client that has subscribed in it. -/
theorem body_new {move : Move} {place : Nat} {body : Body}
    (here : (site.move move).bodies[place]? = some body) (new : site.bodies[place]? = none) :
    site.network.isKnown body.stream.client = false ∧ body.Has [] ∧
      site.network.received body.stream.client (site.acts move) = [] := by
  have outside : site.bodies.length ≤ place := List.getElem?_eq_none_iff.mp new
  have inside := (List.getElem?_eq_some_iff.mp here).1
  have stays {site' : Site} (same : site'.bodies = site.bodies)
      (there : site'.bodies[place]? = some body) : False := by
    rw [same, new] at there
    contradiction
  by_cases other : ∀ broker method target, move ≠ .request broker method target
  · have same := @length_bodies_move site move other
    omega
  simp only [ne_eq, not_forall, not_not] at other
  obtain ⟨broker, method, target, rfl⟩ := other
  simp only [Site.move] at here
  cases asked : asked? method target with
  | none =>
    rw [request_not_asked asked] at here
    exact (stays rfl here).elim
  | some scope =>
    cases found : site.network.subscribe broker scope with
    | none =>
      rw [request_refused asked found] at here
      exact (stays rfl here).elim
    | some joined =>
      rw [request_joined asked found] at here
      split at here
      · exact (stays rfl here).elim
      · have joins := Network.joins?_of_subscribe found 0
        rcases getElem?_snoc_cases here with old | ⟨_, rfl⟩
        · exact (stays rfl old).elim
        refine ⟨Network.not_isKnown_of_joins? joins, ⟨rfl, by simp⟩, ?_⟩
        rw [acts, asked, Option.elim_some]
        exact Network.received_of_silent (receives_asking _ _ _ _ _)

/-- In every run, each body has the frames of what its client received, and it has ended if its client
found the end. -/
theorem bodies_has (fabric : Fabric) (moves : List Move) :
    ∀ body ∈ ((new fabric).moves moves).bodies,
      body.Has ((⟨fabric, []⟩ : Network).received body.stream.client
        ((new fabric).allActs moves)) := by
  induction moves using List.reverseRecOn with
  | nil =>
    intro body member
    contradiction
  | append_singleton moves move ih =>
    have listed := (listed_new fabric).moves moves
    have network := network_moves (new fabric) moves
    intro body member
    obtain ⟨place, there⟩ := List.mem_iff_getElem?.mp member
    rw [moves_concat] at there
    have parts : (⟨fabric, []⟩ : Network).received body.stream.client
        ((new fabric).allActs (moves ++ [move]))
        = (⟨fabric, []⟩ : Network).received body.stream.client ((new fabric).allActs moves)
          ++ ((new fabric).moves moves).network.received body.stream.client
            (((new fabric).moves moves).acts move) := by
      rw [allActs_concat, Network.received_append, network]
      rfl
    rw [parts]
    cases here : ((new fabric).moves moves).bodies[place]? with
    | none =>
      obtain ⟨stranger, has, silent⟩ := body_new there here
      have before := received_stranger (listed_new fabric) stranger
      rw [silent, List.append_nil]
      rw [← before] at has
      exact has
    | some before =>
      obtain ⟨after, there', carries⟩ := carries_move listed here move
      cases there.symm.trans there'
      rw [carries.stream]
      exact (ih before (List.mem_of_getElem? here)).carries carries

/-- From the frames of any messages that can reach a client, each is read back in its place; and in
every run, what is read from a body is what its client received, until its client finds the end. -/
theorem bodies_read_back (fabric : Fabric) (moves : List Move) :
    (∀ messages s, (∀ message ∈ messages, Passable message) →
      Interspersed (messages.map frame) s → List.Forall₂ ReadsBack messages (readEvents s)) ∧
    ∀ body ∈ ((new fabric).moves moves).bodies, ∀ found,
      found = (⟨fabric, []⟩ : Network).received body.stream.client ((new fabric).allActs moves) →
      (body.ended = true ↔ .error .closed ∈ found) ∧
        ∀ s, Interspersed body.frames s →
          List.Forall₂ ReadsBack (found.filterMap (·.toOption)) (readEvents s) := by
  refine ⟨fun messages s passable streams => readsBack_readEvents passable streams, ?_⟩
  intro body member found same
  have has := bodies_has fabric moves body member
  rw [← same] at has
  refine ⟨has.ended, fun s streams => ?_⟩
  rw [has.frames, framesOf_eq] at streams
  refine readsBack_readEvents (fun message received => ?_) streams
  obtain ⟨item, inside, isMessage⟩ := List.mem_filterMap.mp received
  cases item with
  | error stop => contradiction
  | ok text =>
    cases isMessage
    have empty : (⟨fabric, []⟩ : Network).Carries := by
      intro index broker here
      contradiction
    exact empty.received (same ▸ inside)

/-- A list with a line end of two bytes in it. -/
def brokenList : Bytes := [0x5B, 0x0D, 0x0A, 0x5D]

theorem isValue_brokenList : IsValue brokenList := by
  have blank : Blank [0x0D, 0x0A] := by
    simp [Blank]
  exact isValue_iff.mpr ⟨.bracketed (@Spells.close .list .first _ blank),
    Utf8.isText_ascii (by decide)⟩

/-- An event whose payload is passed on as it stands. -/
def broken : Event Payload :=
  .of "created" "a b" (.raw ⟨brokenList, brokenList, isValue_brokenList.whole_readRaw⟩)

/-- The body of a request that has been answered just now. -/
def empty : Body := ⟨⟨⟨0, 0⟩, "a b"⟩, [], false, false, false⟩

theorem empty_mem : empty ∈ (idle.request 0 "GET" "/events?scope=a+b").bodies := by
  have subscribed : idle.network.subscribe 0 "a b" = some _ := rfl
  rw [request_joined asked_blank subscribed, if_neg (by decide)]
  exact List.mem_append_right _ (List.mem_singleton.mpr rfl)

/-- Nothing has been received through it yet. -/
theorem received_empty : (⟨(Network.onHub (.new 4) []).fabric, []⟩ : Network).received ⟨0, 0⟩
    ((new (Network.onHub (.new 4) []).fabric).allActs
      [.call (.on 0 (.start ⟨"room", 1⟩)), .request 0 "GET" "/events?scope=a+b"]) = [] := by
  refine Network.received_of_silent fun act member => ?_
  rcases List.mem_append.mp member with first | later
  · cases List.mem_singleton.mp first
    rfl
  · rw [allActs, acts, asked_blank, Option.elim_some, allActs, List.append_nil] at later
    exact receives_asking _ _ _ _ _ act later

theorem bodies_read_back_broken : ∃ message, broken.write = .ok message ∧
    List.Forall₂ ReadsBack [message] (readEvents (comment [] ++ (frame message ++ []))) ∧
    empty ∈ (idle.request 0 "GET" "/events?scope=a+b").bodies ∧
    List.Forall₂ ReadsBack [] (readEvents (comment [] ++ [])) := by
  obtain ⟨read, bodies⟩ := bodies_read_back (Network.onHub (.new 4) []).fabric
    [.call (.on 0 (.start ⟨"room", 1⟩)), .request 0 "GET" "/events?scope=a+b"]
  have plain : ∀ b ∈ ([] : Bytes), isLineEnd b = false := fun _ member =>
    absurd member List.not_mem_nil
  refine ⟨_, rfl, read [_] _ ?_ (.commented plain (.framed .nil)), empty_mem, ?_⟩
  · intro message member
    cases List.mem_singleton.mp member
    exact @Passable.written broken _ rfl
  · obtain ⟨_, reads⟩ := bodies empty empty_mem [] received_empty.symm
    exact reads _ (.commented plain .nil)

end Site

end Fanout.Http
