import Fanout.Proofs.Bus.Single
import Fanout.Proofs.Network.Mask

/-! One broker in two networks. Apart from its number and the place of its reader it is the same in
both, and its readers see the same; then whatever is done to it leaves it the same in both. -/

namespace Fanout

/-- A loop apart from the place of its reader. -/
def Inbound.plain : Inbound → Inbound
  | .waiting _ => .waiting (.hub 0 0 0)
  | .running _ => .running (.hub 0 0 0)
  | .absent => .absent
  | .ended => .ended

theorem Inbound.stream?_isSome_plain (inbound : Inbound) :
    inbound.plain.stream?.isSome = inbound.stream?.isSome := by
  cases inbound <;> rfl

/-- The same act on the first broker. -/
def Act.alone : Act → Act
  | .closing _ => .closing 0
  | .stop _ => .stop 0
  | .on _ (.publish _ event) => .on 0 (.publish 0 event)
  | .on _ (.turn _) => .on 0 (.turn 0)
  | .on _ (.subscribe _ filter) => .on 0 (.subscribe 0 filter)
  | .on _ (.close _) => .on 0 (.close 0)
  | .on _ (.unsubscribe id) => .on 0 (.unsubscribe ⟨0, id.serial⟩)
  | .on _ (.dropHandle id) => .on 0 (.dropHandle ⟨0, id.serial⟩)
  | .on _ (.dropReceiver id) => .on 0 (.dropReceiver ⟨0, id.serial⟩)
  | .on _ (.receive id) => .on 0 (.receive ⟨0, id.serial⟩)
  | act => act

namespace Broker

/-- A broker apart from its number and the place of its reader. -/
def plain (broker : Broker) : Broker :=
  { broker with
    registry := { broker.registry with number := 0 }
    inbound := broker.inbound.plain }

variable {broker broker' : Broker} {fabric fabric' : Fabric} {capacity : Nat}

/-! ## What is done to a broker depends on nothing else -/

theorem masks_plain : Masks plain :=
  ⟨fun _ => rfl, fun _ => rfl, fun _ _ _ => rfl, fun _ _ _ => rfl, fun _ _ => rfl, fun _ => rfl⟩

theorem plain_shut (fabric fabric' : Fabric) (broker : Broker) :
    (broker.shut fabric).2.plain = (broker.plain.shut fabric').2 := by
  obtain ⟨bus, channel, registry, inbound, listening, closed⟩ := broker
  have closing : ({ registry with number := 0 } : Registry).closeAll.value
      = { registry.closeAll.value with number := 0 } := by
    rw [Registry.closeAll_value, Registry.closeAll_value]
  cases inbound <;> simp [shut, plain, Inbound.plain, Inbound.stream?, closing]

theorem inbound_published (fabric : Fabric) (broker : Broker) (event : Event Payload) :
    (broker.published fabric event).2.inbound = broker.inbound ∧
      (broker.published fabric event).2.channel = broker.channel := by
  unfold published
  split
  · exact ⟨rfl, rfl⟩
  split
  · exact ⟨rfl, rfl⟩
  split
  · split <;> exact ⟨rfl, rfl⟩
  · exact ⟨rfl, rfl⟩

/-- The message that is written when an event is published, if one is. -/
def written? (broker : Broker) (event : Event Payload) : Option Bytes :=
  if broker.closed then none else (Envelope.sealEvent event).toOption.map (·.encode)

theorem writes_eq (single : fabric.Single capacity) (broker : Broker) (envelope : Envelope) :
    broker.writes fabric envelope = decide (broker.bus = 0) :=
  single.write_snd ..

end Broker

/-- What is seen of a write on a bus, if there is one. -/
def View.hears (view : View) (bus : Nat) (channel : String) (message? : Option Bytes) : View :=
  match message? with
  | some message => if bus = 0 then view.write channel message else view
  | none => view

theorem View.name_hears (view : View) (bus : Nat) (channel : String) (message? : Option Bytes) :
    (view.hears bus channel message?).name = view.name := by
  unfold hears
  split
  · split
    · unfold write
      split <;> rfl
    · rfl
  · rfl

namespace Broker

variable {broker broker' : Broker} {fabric fabric' : Fabric} {stream : Stream} {view : View}
  {capacity : Nat}

theorem view?_published (single : fabric.Single capacity) (sane : fabric.Sane)
    (sees : fabric.view? stream = some view) (broker : Broker) (event : Event Payload) :
    (broker.published fabric event).1.view? stream
      = some (view.hears broker.bus broker.channel (broker.written? event)) := by
  cases closed : broker.closed with
  | true =>
    rw [published_closed closed, written?, if_pos closed]
    exact sees
  | false =>
    cases sealed : Envelope.sealEvent event with
    | error fault =>
      rw [published_error closed sealed, written?, closed, sealed]
      exact sees
    | ok envelope =>
      rw [published_sealed closed sealed, written?, closed, sealed]
      exact single.view?_write sane sees broker.bus broker.channel envelope.encode

/-! ## The same broker in two networks -/

/-- The two states are those of one broker, and their readers see the same. -/
structure Twins (fabric fabric' : Fabric) (broker broker' : Broker) : Prop where
  plain : broker.plain = broker'.plain
  view : ∀ stream, broker.inbound.stream? = some stream →
    ∃ stream' view, broker'.inbound.stream? = some stream' ∧ fabric.view? stream = some view ∧
      fabric'.view? stream' = some view ∧ view.name = broker.channel

namespace Twins

section Fields

variable (twins : Twins fabric fabric' broker broker')
include twins

theorem bus : broker.bus = broker'.bus := congrArg (·.bus) twins.plain

theorem channel : broker.channel = broker'.channel := congrArg (·.channel) twins.plain

theorem listening : broker.listening = broker'.listening := congrArg (·.listening) twins.plain

theorem closed : broker.closed = broker'.closed := congrArg (·.closed) twins.plain

theorem clients : broker.registry.clients = broker'.registry.clients :=
  congrArg (·.registry.clients) twins.plain

theorem stats : broker.stats = broker'.stats := congrArg (·.registry.stats) twins.plain

theorem none_of_none (idle : broker.inbound.stream? = none) :
    broker'.inbound.stream? = none := by
  have same := congrArg (fun broker : Broker => broker.inbound.stream?.isSome) twins.plain
  simp only [Broker.plain, Inbound.stream?_isSome_plain, idle] at same
  simpa using same.symm

/-- Nothing that the readers see has changed, nor who reads. -/
theorem keeps {after after' : Broker} (plain : after.plain = after'.plain)
    (stream : after.inbound.stream? = broker.inbound.stream?)
    (stream' : after'.inbound.stream? = broker'.inbound.stream?)
    (channel : after.channel = broker.channel) : Twins fabric fabric' after after' := by
  refine ⟨plain, fun own reads => ?_⟩
  rw [stream', channel]
  exact twins.view own (stream ▸ reads)

end Fields

section Acts

variable (twins : Twins fabric fabric' broker broker') (single : fabric.Single capacity)
  (single' : fabric'.Single capacity) (sane : fabric.Sane) (sane' : fabric'.Sane)
include twins single single' sane sane'

theorem published (event : Event Payload) :
    Twins (broker.published fabric event).1 (broker'.published fabric' event).1
      (broker.published fabric event).2 (broker'.published fabric' event).2 := by
  obtain ⟨inbound, channel⟩ := inbound_published fabric broker event
  obtain ⟨inbound', _⟩ := inbound_published fabric' broker' event
  constructor
  case plain =>
    have same (envelope : Envelope) :
        broker.plain.writes fabric' envelope = broker.writes fabric envelope := by
      rw [writes_eq single, writes_eq single']
      rfl
    rw [masks_plain.published same, masks_plain.published (fun _ => rfl), twins.plain]
  case view =>
    intro stream reads
    rw [inbound] at reads
    obtain ⟨stream', view, reads', sees, sees', named⟩ := twins.view stream reads
    have message : broker'.written? event = broker.written? event := by
      rw [written?, written?, twins.closed]
    have heard := view?_published single' sane' sees' broker' event
    rw [message, ← twins.bus, ← twins.channel] at heard
    rw [inbound', channel]
    exact ⟨stream', _, reads', view?_published single sane sees broker event, heard,
      (View.name_hears ..).trans named⟩

omit single single' in
theorem turned : Twins (broker.turned fabric).1 (broker'.turned fabric').1
    (broker.turned fabric).2 (broker'.turned fabric').2 := by
  cases reads : broker.inbound.stream? with
  | none =>
    rw [turned_idle reads, turned_idle (twins.none_of_none reads)]
    exact twins
  | some stream =>
    obtain ⟨stream', view, reads', sees, sees', named⟩ := twins.view stream reads
    obtain ⟨finds, after⟩ := Fabric.view?_next sane sees
    obtain ⟨finds', after'⟩ := Fabric.view?_next sane' sees'
    rw [turned_stream reads, turned_stream reads', finds, finds']
    constructor
    case plain =>
      rw [masks_plain.found _ fabric, masks_plain.found _ fabric, twins.plain]
    case view =>
      intro own goes
      have name := (View.name_next view).trans named
      cases outcome : view.next.2 with
      | ended =>
        rw [outcome] at goes
        contradiction
      | pending =>
        rw [outcome] at goes
        cases goes
        exact ⟨stream', view.next.1, rfl, after, after', name⟩
      | item item =>
        rw [outcome] at goes
        have stays := (take_spec { broker with inbound := .running stream } item).1
        have stays' := (take_spec { broker' with inbound := .running stream' } item).1
        cases stays.stream.symm.trans goes
        exact ⟨stream', view.next.1, stays'.stream, after, after', name.trans stays.channel.symm⟩

omit single single' sane sane' in
theorem shut : Twins (broker.shut fabric).1 (broker'.shut fabric').1
    (broker.shut fabric).2 (broker'.shut fabric').2 := by
  constructor
  case plain => rw [plain_shut _ fabric, plain_shut _ fabric, twins.plain]
  case view =>
    intro stream reads
    rw [shut_stream] at reads
    contradiction

/-- The broker remains the same in both networks when the same is done to it. -/
theorem perform {act : Act} {index : Nat} (names : act.broker? = some index) :
    Twins (broker.perform fabric act).1 (broker'.perform fabric' act.alone).1
      (broker.perform fabric act).2 (broker'.perform fabric' act.alone).2 := by
  have client (serial : Nat) (f : Client → Client) :
      Twins fabric fabric' (broker.onClient serial f) (broker'.onClient serial f) :=
    twins.keeps (congrArg (onClient serial f) twins.plain) rfl rfl rfl
  cases act with
  | stop bus => contradiction
  | closing j =>
    refine twins.keeps ?_ rfl rfl rfl
    exact congrArg (fun broker : Broker => { broker with closed := true }) twins.plain
  | on bus step =>
    cases step with
    | start | write | shutdown => contradiction
    | publish j event => exact twins.published single single' sane sane' event
    | turn j => exact twins.turned sane sane'
    | close j => exact twins.shut
    | subscribe j filter =>
      rw [Act.alone, perform_subscribe, perform_subscribe]
      exact twins.keeps (congrArg (joined filter) twins.plain) rfl rfl rfl
    | unsubscribe id | dropHandle id | dropReceiver id | receive id => exact client id.serial _

end Acts

end Twins

end Broker

end Fanout
