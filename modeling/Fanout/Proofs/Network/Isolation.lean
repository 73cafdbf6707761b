import Fanout.Proofs.Network.Alone

/-! Brokers on one bus are isolated from each other. All that is to be observed of a broker is decided by
what it notices of a run: its own acts, what others write on its channel, and the ends of the bus. -/

namespace Fanout

/-- What a broker shows of itself. -/
structure Outlook where
  clients : Nat
  listening : Bool
  stats : Stats
  deriving DecidableEq, Repr

namespace Network

variable {network alone : Network} {index index' capacity : Nat}

def outlook? (network : Network) (index : Nat) : Option Outlook :=
  (network.brokers[index]?).map fun broker => ⟨broker.clientCount, broker.listening, broker.stats⟩

/-- What a broker shows ahead of each act that it notices, and at the end of the run. -/
def outlooks (index : Nat) (network : Network) : List Act → List (Option Outlook)
  | [] => [network.outlook? index]
  | act :: acts => (if (network.notices? index act).isSome then [network.outlook? index] else [])
    ++ (network.act act).outlooks index acts

/-- What the first broker shows ahead of each act, and at the end of the run. -/
def shows (network : Network) : List Act → List (Option Outlook)
  | [] => [network.outlook? 0]
  | act :: acts => network.outlook? 0 :: (network.act act).shows acts

theorem shows_option (network : Network) (act? : Option Act) (acts : List Act) :
    network.shows (act?.toList ++ acts)
      = (if act?.isSome then [network.outlook? 0] else [])
        ++ (network.acts act?.toList).shows acts := by
  cases act? <;> rfl

/-- What is done to another broker is noticed where it publishes on the channel, and else not. -/
theorem notices?_other {broker : Broker} {act noticed : Act} {j : Nat}
    (here : network.brokers[index]? = some broker) (names : act.broker? = some j)
    (different : j ≠ index) (notices : network.notices? index act = some noticed) :
    ∃ bus event other message, act = .on bus (.publish j event) ∧
      network.brokers[j]? = some other ∧ other.channel = broker.channel ∧
      other.written? event = some message ∧ noticed = .on 0 (.write broker.channel message) := by
  have elsewhere : act.broker? ≠ some index := fun same =>
    different (Option.some.inj (names.symm.trans same))
  have goesOn : ∀ bus, act ≠ .on bus .shutdown := by
    rintro bus rfl
    contradiction
  have hears : network.hears? broker.channel act = some noticed := by
    rw [notices?, if_neg elsewhere, here] at notices
    exact notices
  rw [hears?_of_not_end goesOn, Option.bind_eq_some_iff] at hears
  obtain ⟨⟨bus', name, message⟩, writes, heard⟩ := hears
  simp only [Option.ite_none_right_eq_some, Option.some.injEq] at heard
  obtain ⟨⟨_, rfl⟩, rfl⟩ := heard
  cases act with
  | closing j | stop bus => contradiction
  | on bus step =>
    cases step with
    | start | write | shutdown | turn | subscribe | close | unsubscribe | dropHandle
    | dropReceiver | receive => contradiction
    | publish j event =>
      cases names
      obtain ⟨other, there, written⟩ := Option.bind_eq_some_iff.mp writes
      obtain ⟨_, seals, same⟩ := Option.map_eq_some_iff.mp written
      obtain ⟨_, shares, rfl⟩ : _ ∧ other.channel = broker.channel ∧ _ = message := by
        simpa only [Prod.mk.injEq] using same
      exact ⟨bus, event, other, _, rfl, there, shares, seals, rfl⟩

/-! ## Receivers -/

theorem receives_alone {act : Act} (names : act.broker? = some index) (serial : Nat) :
    act.alone.receives ⟨0, serial⟩ = act.receives ⟨index, serial⟩ := by
  cases act with
  | closing j | stop bus => rfl
  | on bus step =>
    cases step with
    | start | write | shutdown => contradiction
    | publish | turn | subscribe | close | unsubscribe | dropHandle | dropReceiver => rfl
    | receive id =>
      obtain ⟨registry, other⟩ := id
      cases names
      simp [Act.alone, Act.receives]

theorem silent_hears? {channel : String} {act heard : Act}
    (hears : network.hears? channel act = some heard) (id : ClientId) :
    heard.receives id = false := by
  by_cases ends : ∃ bus, act = .on bus .shutdown
  · obtain ⟨bus, rfl⟩ := ends
    simp only [hears?, Option.ite_none_right_eq_some, Option.some.injEq] at hears
    rw [← hears.2]
    rfl
  · rw [hears?_of_not_end fun bus same => ends ⟨bus, same⟩] at hears
    obtain ⟨written, _, hears⟩ := Option.bind_eq_some_iff.mp hears
    simp only [Option.ite_none_right_eq_some, Option.some.injEq] at hears
    rw [← hears.2]
    rfl

theorem silent_starts? {act started : Act} (starts : network.starts? index act = some started)
    (id : ClientId) : started.receives id = false := by
  unfold starts? at starts
  split at starts
  · simp only [Option.ite_none_right_eq_some, Option.some.injEq] at starts
    rw [← starts.2]
    rfl
  · contradiction

/-- Where the broker is alone a receiver looks when it looks in the network. -/
theorem received_notices (network alone : Network) (index serial : Nat) (act : Act) :
    alone.received ⟨0, serial⟩ (network.notices? index act).toList
      = if act.receives ⟨index, serial⟩ then [alone.findable ⟨0, serial⟩] else [] := by
  unfold notices?
  by_cases names : act.broker? = some index
  · rw [if_pos names, Option.toList_some, received, receives_alone names]
    exact List.append_nil _
  · have silent : act.receives ⟨index, serial⟩ = false := by
      cases looks : act.receives ⟨index, serial⟩ with
      | false => rfl
      | true =>
        obtain ⟨bus, rfl⟩ := Act.eq_receive looks
        exact absurd rfl names
    rw [if_neg names, silent, if_neg Bool.false_ne_true]
    refine received_of_silent fun noticed member => ?_
    rw [Option.mem_toList] at member
    cases here : network.brokers[index]? with
    | none =>
      rw [here] at member
      exact silent_starts? member _
    | some broker =>
      rw [here] at member
      exact silent_hears? member _

/-! ## Runs -/

namespace Mirrors

theorem outlook?_eq (mirrors : Mirrors index network alone) :
    network.outlook? index = alone.outlook? 0 := by
  cases mirrors with
  | absent here none =>
    rw [outlook?, outlook?, here, none]
    rfl
  | present here only twins =>
    rw [outlook?, outlook?, here, only, Option.map_some, twins.listening, twins.stats,
      Broker.clientCount, Registry.count, twins.clients]
    rfl

theorem findable_eq (mirrors : Mirrors index network alone) (serial : Nat) :
    network.findable ⟨index, serial⟩ = alone.findable ⟨0, serial⟩ := by
  cases mirrors with
  | absent here none =>
    rw [findable, findable, here, none]
    rfl
  | present here only twins =>
    rw [findable, findable, here, only, Option.map_some, Registry.receive_snd, twins.clients,
      ← Registry.receive_snd]
    rfl

section Runs

variable (mirrors : Mirrors index network alone) (orderly : network.Orderly capacity)
  (orderly' : alone.Orderly capacity)
include mirrors orderly orderly'

/-- A broker shows the same as if it were alone with what it notices. -/
theorem outlooks_eq (acts : List Act) :
    network.outlooks index acts = alone.shows (network.visible index acts) := by
  induction acts generalizing network alone with
  | nil => rw [outlooks, visible, shows, mirrors.outlook?_eq]
  | cons act acts rest =>
    rw [outlooks, visible, shows_option, mirrors.outlook?_eq,
      rest (mirrors.act orderly orderly' act) (orderly.act act) (orderly'.acts _)]

/-- The receivers find the same as if the broker were alone with what it notices. -/
theorem received_eq (serial : Nat) (acts : List Act) :
    network.received ⟨index, serial⟩ acts
      = alone.received ⟨0, serial⟩ (network.visible index acts) := by
  induction acts generalizing network alone with
  | nil => rfl
  | cons act acts rest =>
    rw [received, visible, received_append, received_notices, mirrors.findable_eq,
      rest (mirrors.act orderly orderly' act) (orderly.act act) (orderly'.acts _)]

end Runs

end Mirrors

/-- One bus in memory, and no broker yet. -/
def onBus (capacity : Nat) : Network := initial [capacity] [] [.memory 0]

theorem orderly_onBus (capacity : Nat) : (onBus capacity).Orderly capacity :=
  ⟨tidy_initial _ _ _, rfl, .new capacity, rfl, Hub.uniform_new capacity⟩

theorem mirrors_onBus (capacity index : Nat) :
    Mirrors index (onBus capacity) (onBus capacity) :=
  .absent rfl rfl

/-- In two runs in which brokers notice the same they show the same, and their receivers find the
same. -/
theorem isolated {acts acts' : List Act}
    (same : (onBus capacity).visible index acts = (onBus capacity).visible index' acts') :
    (onBus capacity).outlooks index acts = (onBus capacity).outlooks index' acts' ∧
      ∀ serial, (onBus capacity).received ⟨index, serial⟩ acts
        = (onBus capacity).received ⟨index', serial⟩ acts' := by
  have orderly := orderly_onBus capacity
  have mirrors := mirrors_onBus capacity index
  have mirrors' := mirrors_onBus capacity index'
  constructor
  · rw [mirrors.outlooks_eq orderly orderly, mirrors'.outlooks_eq orderly orderly, same]
  · intro serial
    rw [mirrors.received_eq orderly orderly, mirrors'.received_eq orderly orderly, same]

/-- One broker loses a message of the two on its channel. -/
def quiet : List Act :=
  [.on 0 (.start ⟨"room", 1⟩), .on 0 (.subscribe 0 "a"), .on 0 (.write "room" [2]),
    .on 0 (.write "room" [3]), .on 0 (.turn 0), .on 0 (.receive ⟨0, 0⟩)]

/-- Another broker is on the channel: it has a client, reads nothing and is closed. -/
def crowded : List Act :=
  [.on 0 (.start ⟨"room", 1⟩), .on 0 (.start ⟨"room", 1⟩), .on 0 (.subscribe 1 "a"),
    .on 0 (.subscribe 0 "a"), .on 0 (.write "hall" [1]), .on 0 (.write "room" [2]),
    .on 0 (.close 0), .on 0 (.write "room" [3]), .on 0 (.turn 1), .on 0 (.receive ⟨1, 0⟩)]

theorem isolated_crowded : (onBus 1).visible 1 crowded = (onBus 1).visible 0 quiet ∧
    (onBus 1).outlooks 1 crowded = (onBus 1).outlooks 0 quiet ∧
    ((onBus 1).outlooks 0 quiet).getLast?
      = some (some ⟨1, true, { Stats.zero with busLagged := 1 }⟩) ∧
    (onBus 1).received ⟨1, 0⟩ crowded = (onBus 1).received ⟨0, 0⟩ quiet := by
  have same : (onBus 1).visible 1 crowded = (onBus 1).visible 0 quiet := rfl
  obtain ⟨shows, finds⟩ := isolated same
  exact ⟨same, shows, by decide +kernel, finds 0⟩

end Network

end Fanout
