import Fanout.Proofs.Network.Ledger

/-! What an inbound loop finds lost because it has fallen behind. The writes that it lost are in
order, each of them once, and the counter of lost messages is their number. -/

namespace Fanout

open Network Broker

/-- How many messages an item tells to be lost. -/
def BusItem.lost : BusItem → Nat
  | .message _ => 0
  | .lagged lost => lost

namespace Broker

/-- How many messages the loop of a broker finds lost in an act. -/
def missed (fabric : Fabric) (broker : Broker) : Act → Nat
  | .on _ (.turn _) =>
    ((broker.inbound.stream?).bind fun stream =>
      (fabric.next stream).value.2.item?).elim 0 BusItem.lost
  | _ => 0

theorem busLagged_take (broker : Broker) (item : BusItem) :
    (broker.take item).value.registry.stats.busLagged
      = broker.registry.stats.busLagged + .ofNat item.lost := by
  cases item with
  | lagged lost => rfl
  | message message =>
    cases decoded : Envelope.decode message with
    | error fault =>
      rw [take_malformed broker decoded]
      exact (UInt64.add_zero _).symm
    | ok envelope =>
      rw [take_message broker decoded]
      exact (UInt64.add_zero _).symm

/-- What the loop finds lost is counted, and nothing else is counted there. -/
theorem busLagged_perform (fabric : Fabric) (broker : Broker) (act : Act) :
    (broker.perform fabric act).2.registry.stats.busLagged
      = broker.registry.stats.busLagged + .ofNat (broker.missed fabric act) := by
  cases act with
  | closing j | stop bus => exact (UInt64.add_zero _).symm
  | on bus step =>
    cases step with
    | start config | write channel message | shutdown | unsubscribe id | dropHandle id
    | dropReceiver id | receive id => exact (UInt64.add_zero _).symm
    | subscribe j filter =>
      rw [perform_subscribe]
      exact (UInt64.add_zero _).symm
    | close j =>
      simp only [perform, shut, Registry.closeAll_value]
      cases broker.inbound.stream? <;> exact (UInt64.add_zero _).symm
    | publish j event =>
      have same : (broker.published fabric event).2.registry.stats.busLagged
          = broker.registry.stats.busLagged := by
        unfold published
        split
        · rfl
        split
        · rfl
        split
        · split <;> rfl
        · rfl
      exact same.trans (UInt64.add_zero _).symm
    | turn j =>
      simp only [perform, missed]
      cases reads : broker.inbound.stream? with
      | none =>
        rw [turned_idle reads]
        exact (UInt64.add_zero _).symm
      | some stream =>
        rw [turned_stream reads, Option.bind_some]
        cases (fabric.next stream).value.2 with
        | pending | ended => exact (UInt64.add_zero _).symm
        | item item => exact busLagged_take _ item

end Broker

namespace Chronicle

variable {chronicle after : Chronicle} {hub : Hub} {brokers : List Broker} {step : Step}
  {index : Nat} {broker broker' : Broker} {source : Nat} {read : Option BusItem}
  {heard : Option Envelope}

/-! ## What a loop has lost -/

/-- The numbers of the writes that the loop of a broker finds lost in a step. -/
def skips (chronicle : Chronicle) (index : Nat) (step : Step) : List Nat :=
  (chronicle.pending index).take ((chronicle.network.item? index step).elim 0 BusItem.lost)

/-- The numbers of all writes that the loop of a broker finds lost in a run. -/
def skipped (index : Nat) (chronicle : Chronicle) : List Step → List Nat
  | [] => []
  | step :: steps => chronicle.skips index step ++ (chronicle.advance step).skipped index steps

theorem skipped_concat (index : Nat) (chronicle : Chronicle) (steps : List Step) (step : Step) :
    chronicle.skipped index (steps ++ [step])
      = chronicle.skipped index steps ++ (steps.foldl advance chronicle).skips index step := by
  induction steps generalizing chronicle with
  | nil => simp [skipped]
  | cons first steps rest =>
    rw [List.cons_append, skipped, rest, skipped, List.append_assoc]
    rfl

theorem item?_absent {network : Network} (absent : network.brokers[index]? = none) (step : Step) :
    network.item? index step = none := by
  cases step with
  | turn turning => simp [item?, read?, absent]
  | start | publish | write | subscribe | unsubscribe | dropHandle | dropReceiver | receive
  | close | shutdown => rfl

/-- A loop finds no more messages lost than it had still to come to. -/
theorem Sound.lost_le (sound : chronicle.Sound hub brokers) (index : Nat) (step : Step) :
    (chronicle.network.item? index step).elim 0 BusItem.lost
      ≤ (chronicle.pending index).length := by
  cases reads : chronicle.network.item? index step with
  | none => exact Nat.zero_le _
  | some item =>
    cases step with
    | turn turning =>
      by_cases same : turning = index
      · subst same
        rw [item?_self] at reads
        cases here : brokers[turning]? with
        | none => simp [read?, sound.network, here] at reads
        | some broker =>
          cases stream : broker.inbound.stream? with
          | none => simp [read?, sound.network, here, stream] at reads
          | some found =>
            obtain ⟨k, reader, position, channel, rfl, _, _, at?⟩ :=
              (sound.wired turning broker here).stream found stream
            obtain ⟨c, moved, _, finds, _⟩ := sound.logs.next at?
            rw [sound.read?_eq here stream] at reads
            rw [sound.pending_eq here, pending_of_stream stream at?]
            generalize (hub.next k reader).2 = next at finds reads
            generalize (chronicle.stored k).drop position = numbers at finds
            have bound := finds.bound
            cases finds with
            | nothing => split at reads <;> contradiction
            | message =>
              cases reads
              exact Nat.zero_le _
            | lagged =>
              cases reads
              exact bound
      · simp [item?, same] at reads
    | start | publish | write | subscribe | unsubscribe | dropHandle | dropReceiver | receive
    | close | shutdown => contradiction

theorem skipped_absent {capacity : Nat} {steps : List Step}
    (absent : (run capacity steps).network.brokers[index]? = none) :
    (start capacity).skipped index steps = [] := by
  induction steps using List.reverseRecOn with
  | nil => rfl
  | append_singleton steps step earlier =>
    have before : (run capacity steps).network.brokers[index]? = none := by
      obtain ⟨hub, brokers, sound⟩ := sound_run capacity steps
      obtain ⟨after, brokers', sound', length, _⟩ := sound.advance step
      rw [run_concat, sound'.network, onHub_brokers] at absent
      rw [sound.network, onHub_brokers]
      rw [List.getElem?_eq_none_iff] at absent ⊢
      exact Nat.le_trans length absent
    rw [skipped_concat, earlier before, List.nil_append, ← run, skips, item?_absent before]
    rfl

/-- What a loop finds lost in a step is what the act counts. -/
theorem ofBroker_missed (network : Network) (index : Nat) (step : Step) :
    ofBroker index missed network (.on 0 step)
      = (network.item? index step).elim 0 BusItem.lost := by
  cases here : network.brokers[index]? with
  | none => simp [ofBroker, here, item?_absent here]
  | some broker =>
    cases step with
    | turn turning =>
      by_cases same : turning = index
      · simp [ofBroker, here, same, missed, Act.broker?, Step.broker?, item?, read?]
      · simp [ofBroker, here, same, Act.broker?, Step.broker?, item?]
    | start | publish | write | subscribe | unsubscribe | dropHandle | dropReceiver | receive
    | close | shutdown => simp [ofBroker, here, missed, item?]

/-- The counter of lost messages is the number of all writes that the loop found lost. -/
theorem busLagged_run (capacity : Nat) (steps : List Step)
    (here : (run capacity steps).network.brokers[index]? = some broker) :
    broker.stats.busLagged = .ofNat ((start capacity).skipped index steps).length := by
  have counted : (initial [capacity] [] [.memory 0]).sum (ofBroker index missed)
      (steps.map (.on 0)) = ((start capacity).skipped index steps).length := by
    clear here
    induction steps using List.reverseRecOn with
    | nil => rfl
    | append_singleton steps step earlier =>
      obtain ⟨hub, brokers, sound⟩ := sound_run capacity steps
      rw [List.map_append, List.map_singleton, sum_concat, earlier, acts_initial,
        skipped_concat, List.length_append, ← run, skips,
        List.length_take_of_le (sound.lost_le index step), ofBroker_missed]
  rw [← acts_initial] at here
  have balance := balanced (·.stats.busLagged) missed (fun _ _ _ => 0) (fun _ _ => rfl)
    (fun fabric broker act =>
      (UInt64.add_zero _).trans (broker.busLagged_perform fabric act)) rfl _ here
  rw [sum_ofBroker_zero, counted] at balance
  exact (UInt64.add_zero _).symm.trans balance

/-- What a loop finds lost comes behind all it has lost before, and ahead of what is to come. -/
theorem Flow.loses (flow : Flow chronicle after index broker broker' source read heard)
    {lost : List Nat} (ordered : (lost ++ chronicle.pending index
      ++ [chronicle.count broker.channel]).Pairwise (· < ·)) :
    (lost ++ (chronicle.pending index).take (read.elim 0 BusItem.lost) ++ after.pending index
      ++ [after.count broker.channel]).Pairwise (· < ·) := by
  have quiet := flow.ordered (List.nil_sublist _) ordered
  cases flow with
  | still | missed | stored | direct | message | ended | closed => exact quiet
  | lagged left counted =>
    rw [left, counted, List.append_assoc lost, Option.elim_some, BusItem.lost,
      List.take_append_drop]
    exact ordered

/-- Each write is lost by a loop once at most. -/
theorem skipped_ordered {capacity : Nat} {steps : List Step}
    (here : (run capacity steps).network.brokers[index]? = some broker) :
    ((start capacity).skipped index steps ++ (run capacity steps).pending index
      ++ [(run capacity steps).count broker.channel]).Pairwise (· < ·) := by
  induction steps using List.reverseRecOn generalizing broker with
  | nil => simp [run, start] at here
  | append_singleton steps step earlier =>
    obtain ⟨hub, brokers, sound⟩ := sound_run capacity steps
    obtain ⟨after, brokers', sound', _, each⟩ := sound.advance step
    rw [run_concat, sound'.network, onHub_brokers] at here
    rw [skipped_concat, ← run, run_concat, skips]
    rcases each index broker here with ⟨before, there, passes⟩ | ⟨absent, _, _, _, pending⟩
    · rw [passes.channel]
      exact passes.flow.loses (earlier (by rw [sound.network, onHub_brokers, there]))
    · have nobody : (run capacity steps).network.brokers[index]? = none := by
        rw [sound.network, onHub_brokers, absent]
      rw [skipped_absent nobody, item?_absent nobody, pending]
      exact List.pairwise_singleton ..

end Chronicle

end Fanout
