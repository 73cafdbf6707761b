import Fanout.Proofs.Event.Printed
import Fanout.Proofs.Http.Recovery
import Fanout.Proofs.Network.Listening

/-! An event that carries a value, or nothing, is one line of data on every event stream. There is no
line end in its message, so that nothing it says can add a line to its frame, split one or end the
frame. -/

namespace Fanout.Http
open Json

variable {message : Message}

theorem plain_of_printed (printed : Printed message) : ∀ b ∈ message, isLineEnd b = false := by
  intro b member
  simp only [isLineEnd, Bool.or_eq_false_iff, beq_eq_false_iff_ne]
  constructor <;>
    · rintro rfl
      exact printed _ member (by decide)

theorem frame_of_plain (plain : ∀ b ∈ message, isLineEnd b = false) :
    frame message = dataLabel ++ message ++ [0x0A, 0x0A] := by
  have same : message.flatMap (fun b => if isLineEnd b then b :: dataLabel else [b]) = message := by
    refine (List.flatMap_congr fun b member => ?_).trans (List.flatMap_singleton' message)
    rw [plain b member, if_neg Bool.false_ne_true]
  rw [frame, same]

/-- The frame is one line of data and an empty line, wherever a stream goes on behind it. -/
theorem linesFrom_frame (plain : ∀ b ∈ message, isLineEnd b = false) (r : Bytes) :
    linesFrom [] (frame message ++ r) = (dataLabel ++ message) :: [] :: linesFrom [] r := by
  have line : ∀ b ∈ dataLabel ++ message, isLineEnd b = false := by
    intro b member
    rcases List.mem_append.mp member with label | inside
    · exact dataLabel_plain b label
    · exact plain b inside
  have ends : ([0x0A, 0x0A] : Bytes) ++ r = 0x0A :: 0x0A :: r := rfl
  rw [frame_of_plain plain, List.append_assoc, linesFrom_append line, List.nil_append, ends,
    linesFrom_feed, linesFrom_feed]

/-- What becomes of a published event on its way to event streams, by the bus or without it. -/
structure OneLine (event : Event Value) : Prop where
  /-- The event can be written, and its message has no control characters. -/
  written : Envelope.sealEvent (event.map .value) = .ok ⟨event.scope, event.text⟩
  printed : ∀ b ∈ event.text, 0x20 ≤ b
  /-- Off the bus, the clients of a broker are told this message. -/
  relayed : ∀ broker : Broker,
    (broker.take (.message (Envelope.encode ⟨event.scope, event.text⟩))).value.registry.clients
      = broker.registry.clients.map (·.hear broker.registry.capacity event.text event.scope)
  /-- And so they are at once where it will not come back. -/
  immediate : ∀ fabric (broker : Broker), broker.closed = false →
    (broker.published fabric (event.map .value)).2.registry.clients
      = if broker.listening && broker.writes fabric ⟨event.scope, event.text⟩
        then broker.registry.clients
        else broker.registry.clients.map (·.hear broker.registry.capacity event.text event.scope)
  /-- Its frame has one label and ends behind the message. -/
  frame : frame event.text = Utf8.encode "data: " ++ event.text ++ [0x0A, 0x0A]
  /-- A reader finds one line of data and an empty line, and goes on behind them as at the
  beginning of a stream. -/
  lines : ∀ r, linesFrom [] (Http.frame event.text ++ r)
    = (Utf8.encode "data: " ++ event.text) :: [] :: linesFrom [] r
  /-- It takes them for one event, with the same bytes. -/
  readBack : ∀ r, eventsFrom [] (linesFrom [] (Http.frame event.text ++ r))
    = event.text :: eventsFrom [] (linesFrom [] r)
  /-- In every run, the body of each response has a frame for every message that its client has
  received, and this one where that message is received. -/
  bodies : ∀ fabric moves, ∀ body ∈ ((Site.new fabric).moves moves).bodies,
    List.Forall₂ (fun message part => part = Http.frame message ∧ (message = event.text →
        part = Utf8.encode "data: " ++ event.text ++ [0x0A, 0x0A]))
      (((⟨fabric, []⟩ : Network).received body.stream.client
        ((Site.new fabric).allActs moves)).filterMap (·.toOption)) body.frames

theorem oneLine_value (event : Event Value) : OneLine event := by
  have plain := plain_of_printed event.printed_text
  have sealed := event.sealEvent_map_value
  have framed : frame event.text = Utf8.encode "data: " ++ event.text ++ [0x0A, 0x0A] :=
    frame_of_plain plain
  constructor
  case written => exact sealed
  case printed =>
    intro b member
    exact UInt8.not_lt.mp (event.printed_text b member)
  case relayed =>
    intro broker
    rw [broker.take_message (Envelope.decode_encode_of_sealEvent sealed)]
    exact (Registry.hears_broadcast ..).clients
  case immediate =>
    intro fabric broker running
    rw [Broker.published_atOnce running sealed, Broker.clients_atOnce]
  case frame => exact framed
  case lines => exact linesFrom_frame plain
  case readBack =>
    intro r
    have unreturned : 0x0D ∉ event.text := fun member => event.printed_text _ member (by decide)
    rw [eventsFrom_frame, recovered_of_not_mem unreturned]
  case bodies =>
    intro fabric moves body member
    have has := Site.bodies_has fabric moves body member
    rw [has.frames, framesOf_eq, List.forall₂_map_right_iff, List.forall₂_same]
    intro message _
    refine ⟨rfl, ?_⟩
    rintro rfl
    exact framed

end Fanout.Http
