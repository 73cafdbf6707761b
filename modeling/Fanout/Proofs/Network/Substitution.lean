import Fanout.Proofs.Bus.Remote
import Fanout.Proofs.Network.Completeness
import Fanout.Proofs.Network.Exchange

/-! A bus in memory stands in for connections to a server. Both are for their brokers what an exchange is,
as long as the server passes on what is written to it and no reader of the bus in memory falls behind;
so nothing that is observed tells which of them it is. -/

namespace Fanout

/-- An act on one of so many connections to a server. No bus is shut down, and the server is not. -/
def Act.Served (size : Nat) : Act → Prop
  | .on bus (.start _) | .on bus (.write _ _) => bus < size
  | .on _ .shutdown | .stop _ => False
  | _ => True

namespace Medium

variable {behavior : Server.Behavior} {size : Nat}

theorem admits_of_served (delivers : behavior.Delivers) {act : Act} (served : act.Served size) :
    (remote delivers size).Admits act := by
  cases act with
  | closing j => trivial
  | stop bus => exact served
  | on bus step => cases step <;> exact served

/-- Nobody falls behind on connections to a server. -/
theorem keepsUp_remote {delivers : behavior.Delivers} {network : Network} {exchange : Exchange}
    (realizes : (remote delivers size).Realizes network exchange) {acts : List Act}
    (admits : ∀ act ∈ acts, (remote delivers size).Admits act) : network.keepsUp acts = true := by
  induction acts generalizing network exchange with
  | nil => rfl
  | cons act acts ih =>
    have smooth : network.lags act = false := by
      unfold Network.lags
      split
      · rename_i lost found
        obtain ⟨index, _, read⟩ := Option.bind_eq_some_iff.mp found
        simp only [Network.read?, Option.bind_eq_bind, Option.bind_eq_some_iff] at read
        obtain ⟨broker, here, stream, reads, item⟩ := read
        obtain ⟨station, _, stands⟩ := realizes.exists_station here
        obtain ⟨_, _, subscriber, rfl, _⟩ := stands.waits stream reads
        have never := network.fabric.next_ne_lagged 0 subscriber lost
        cases next : (network.fabric.next (.server 0 subscriber)).value.2 with
        | pending | ended => simp [next, Next.item?] at item
        | item found =>
          rw [next] at item
          cases item
          exact absurd next never
      · rfl
    exact Network.keepsUp_cons.mpr ⟨smooth, ih (realizes.act (admits act List.mem_cons_self) smooth)
      fun act member => admits act (List.mem_cons_of_mem _ member)⟩

end Medium

namespace Network

/-- Brokers are started, publish, read, are closed, and have clients come and go: on any connections to
a server that passes messages on they show the same, and their receivers find the same, at every point
of a run as if they were all on one bus in memory on which nobody falls behind. -/
theorem memory_as_remote {capacity : Nat} {server : Server} {buses : List Bus} {acts : List Act}
    (delivers : server.behavior.Delivers) (up : Server.Request.stop ∉ server.past)
    (connections : ∀ bus ∈ buses, ∃ connected, bus = .server 0 connected)
    (served : ∀ act ∈ acts, act.Served buses.length)
    (keepsUp : (onBus capacity).keepsUp (acts.map .shared) = true) {before later : List Act}
    (split : acts = before ++ later) :
    (∀ index, ((onBus capacity).acts (before.map .shared)).outlook? index
      = ((initial [] [server] buses).acts before).outlook? index) ∧
    ∀ id, ((onBus capacity).acts (before.map .shared)).findable id
        = ((initial [] [server] buses).acts before).findable id ∧
      (onBus capacity).received id (before.map .shared)
        = (initial [] [server] buses).received id before := by
  subst split
  rw [List.map_append] at keepsUp
  have keepsUp := (keepsUp_append.mp keepsUp).1
  have shared : ∀ act ∈ before.map Act.shared, (Medium.memory capacity).Admits act := by
    intro act member
    obtain ⟨own, _, rfl⟩ := List.mem_map.mp member
    exact own.admits_shared capacity
  have admits : ∀ act ∈ before, (Medium.remote delivers buses.length).Admits act :=
    fun act member => Medium.admits_of_served delivers (served act (List.mem_append_left _ member))
  have memory := Medium.realizes_onBus capacity
  have remote : (Medium.remote delivers buses.length).Realizes (initial [] [server] buses) [] :=
    Medium.realizes_nil ⟨rfl, connections, server.past, rfl, up⟩
  have keepsUp' := Medium.keepsUp_remote remote admits
  have shows := memory.acts shared keepsUp
  rw [Exchange.acts_shared] at shows
  have shows' := remote.acts admits keepsUp'
  refine ⟨fun index => ?_, fun id => ⟨?_, ?_⟩⟩
  · rw [shows.outlook?_eq, shows'.outlook?_eq]
  · rw [shows.findable_eq, shows'.findable_eq]
  · rw [memory.received_eq id shared keepsUp, remote.received_eq id admits keepsUp',
      Exchange.received_shared]

/-- Two brokers on connections of their own, and a client of the second one. -/
def connecting : List Act :=
  [.on 0 (.start ⟨"room", 1⟩), .on 1 (.start ⟨"room", 1⟩), .on 1 (.subscribe 1 "a")]

/-- The first broker publishes for this client, and both brokers read. -/
def relaying : List Act :=
  [.on 0 (.publish 0 (.bare "created" "a")), .on 1 (.turn 1), .on 0 (.turn 0),
    .on 1 (.receive ⟨1, 0⟩), .on 1 (.receive ⟨1, 0⟩)]

theorem keepsUp_relaying : (onBus 1).keepsUp ((connecting ++ relaying).map .shared) = true := by
  have joined : (onBus 1).acts (connecting.map .shared)
      = .onHub ⟨1, [⟨"room", Nat.nextPowerOfTwo 1, 0, [], [some 0, some 0], true⟩]⟩
        [⟨0, "room", ⟨0, 1, [], .zero⟩, .waiting (.hub 0 0 0), true, false⟩,
          ⟨0, "room", ⟨1, 1, [.opened "a"], .zero⟩, .waiting (.hub 0 0 1), true, false⟩] := rfl
  rw [List.map_append, keepsUp_append, joined]
  refine ⟨rfl, keepsUp_cons.mpr ⟨rfl, ?_⟩⟩
  refine Eq.trans (congrArg (keepsUp · _)
    (publish_listening rfl rfl rfl rfl Chronicle.sealed_published)) ?_
  decide +kernel

theorem memory_as_remote_relaying :
    (Server.new .relay).behavior.Delivers ∧ Server.Request.stop ∉ (Server.new .relay).past ∧
    (onBus 1).keepsUp ((connecting ++ relaying).map .shared) = true ∧
    (∀ index, ((onBus 1).acts ((connecting ++ relaying).map .shared)).outlook? index
      = ((initial [] [.new .relay] [.server 0 false, .server 0 false]).acts
        (connecting ++ relaying)).outlook? index) ∧
    (onBus 1).received ⟨1, 0⟩ ((connecting ++ relaying).map .shared)
      = (initial [] [.new .relay] [.server 0 false, .server 0 false]).received ⟨1, 0⟩
        (connecting ++ relaying) := by
  have connections : ∀ bus ∈ [Bus.server 0 false, .server 0 false],
      ∃ connected, bus = .server 0 connected := by simp
  have served : ∀ act ∈ connecting ++ relaying, act.Served 2 := by
    simp [connecting, relaying, Act.Served]
  have up : Server.Request.stop ∉ (Server.new .relay).past := List.not_mem_nil
  obtain ⟨shows, finds⟩ := memory_as_remote Server.Behavior.relay_delivers up connections served
    keepsUp_relaying (List.append_nil (connecting ++ relaying)).symm
  exact ⟨Server.Behavior.relay_delivers, up, keepsUp_relaying, shows, (finds ⟨1, 0⟩).2⟩

end Network

end Fanout
