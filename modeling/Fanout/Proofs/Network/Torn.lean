import Fanout.Proofs.Network.Shape

/-! Messages that came to a reader only in part, or with another one behind them. A text in brackets
ends where its bracket is closed, whatever follows; so two messages of which one begins with the
other differ by blanks alone, and what was cut short or glued together is refused. -/

namespace Fanout
open Text Json

namespace Json

/-- The text of a list or an object is passed over before anything at all. -/
theorem Spells.skipValue_bracketed {bracket : Bracket} {w p : Bytes} (blank : Blank w)
    (text : Spells (.rest bracket .first) p) (t : Bytes) :
    skipValue (w ++ bracket.opening :: (p ++ t)) = .ok t := by
  refine skipDue_of_skips (.opening ?_ (text.passed .done))
  rw [blank.skipSpace, skipSpace_opening]

/-- Of two texts that hold one value each and of which one begins with the other, the longer one
has nothing but blanks more, if the value is a list or an object. -/
theorem IsJson.blank {bracket : Bracket} {b t p v : Bytes}
    (bracketed : Spells (.rest bracket .first) p) (short : IsJson b (bracket.opening :: p))
    (long : IsJson (b ++ t) v) : Blank t := by
  obtain ⟨w, w', before, _, _, rfl⟩ := short
  obtain ⟨u, u', before', value, after', same⟩ := long
  have passed := bracketed.skipValue_bracketed before (w' ++ t)
  have passed' := skipValue_of_spells before' value (after'.ended ended_nil)
  rw [List.append_nil] at passed'
  have reads : w ++ bracket.opening :: (p ++ (w' ++ t)) = u ++ (v ++ u') := by
    rw [← same]
    simp
  rw [reads, passed'] at passed
  cases passed
  exact fun c member => after' c (List.mem_append_right _ member)

end Json

namespace Envelope

/-- The text of an envelope is a list or an object. -/
theorem Spelled.bracketed {envelope : Envelope} {text : Bytes} (spelled : envelope.Spelled text) :
    ∃ bracket p, Spells (.rest bracket .first) p ∧ text = bracket.opening :: p := by
  rcases spelled with ⟨⟨p, members, rfl⟩, _, _⟩ | ⟨⟨p, items, rfl⟩, _⟩
  · exact ⟨.object, p, members.spells, rfl⟩
  · exact ⟨.list, p, items.spells, rfl⟩

/-- Messages delimit themselves. -/
theorem blank_of_decode_append {b t : Bytes} {envelope envelope' : Envelope}
    (short : decode b = .ok envelope) (long : decode (b ++ t) = .ok envelope') : Blank t := by
  obtain ⟨text, json, spelled, _, _⟩ := decode_iff.mp short
  obtain ⟨text', json', _, _, _⟩ := decode_iff.mp long
  obtain ⟨bracket, p, bracketed, rfl⟩ := spelled.bracketed
  exact json.blank bracketed json'

theorem decode_append_blank {b t : Bytes} {envelope : Envelope} (decoded : decode b = .ok envelope)
    (blank : Blank t) : decode (b ++ t) = .ok envelope := by
  obtain ⟨text, ⟨w, w', before, value, after, rfl⟩, spelled⟩ := decode_iff.mp decoded
  exact decode_iff.mpr ⟨text, ⟨w, w' ++ t, before, value, after.append blank, by simp⟩, spelled⟩

/-- What is refused is refused as undecodable. -/
theorem kind_of_decode {message : Bytes} {error : Error} (refused : decode message = .error error) :
    error.kind = .decode := by
  unfold decode at refused
  split at refused
  · cases refused
    rfl
  · split at refused
    · cases refused
      rfl
    · contradiction

/-- What becomes of a message that is cut off before its end, or that something follows. -/
inductive Spoils (message : Bytes) : Bytes → Prop where
  | cut {p t : Bytes} : message = p ++ t → t ≠ [] → Spoils message p
  | glued {t : Bytes} : ¬ Blank t → Spoils message (message ++ t)

/-- No end of a message is blank. -/
theorem not_blank_of_encode {envelope : Envelope} {p t : Bytes} (same : envelope.encode = p ++ t)
    (more : t ≠ []) : ¬ Blank t := by
  intro blank
  have last := congrArg List.getLast? same
  rw [encode_eq, List.getLast?_append_of_ne_nil _ more] at last
  have member : (0x7D : UInt8) ∈ t := by
    refine List.mem_of_getLast? (last.symm.trans ?_)
    simp [List.getLast?_cons, List.getLast?_append]
  exact absurd (blank _ member) (by decide)

theorem refuses_spoilt {envelope accepted : Envelope} {message : Bytes}
    (accepts : decode envelope.encode = .ok accepted) (spoils : Spoils envelope.encode message) :
    ∃ error, decode message = .error error ∧ error.kind = .decode := by
  cases decoded : decode message with
  | error error => exact ⟨error, rfl, kind_of_decode decoded⟩
  | ok envelope' =>
    cases spoils with
    | cut same more =>
      rw [same] at accepts
      exact absurd (blank_of_decode_append decoded accepts) (not_blank_of_encode same more)
    | glued more => exact absurd (blank_of_decode_append accepts decoded) more

/-- Another message never goes unnoticed behind one. -/
theorem spoils_encode (message : Bytes) (envelope : Envelope) :
    Spoils message (message ++ envelope.encode) :=
  .glued (not_blank_of_encode (List.nil_append _).symm (by simp [encode_eq]))

end Envelope

/-- The broker when its loop has come to a message that cannot be decoded. -/
def Broker.misread (broker : Broker) (stream : Stream) : Broker :=
  { broker with
    inbound := .running stream
    registry := { broker.registry with
      stats := { broker.registry.stats with
        inboundReceived := broker.registry.stats.inboundReceived + 1
        decodeFailures := broker.registry.stats.decodeFailures + 1 } } }

namespace Network

theorem step_turn_misread {network : Network} {index : Nat} {broker : Broker} {stream : Stream}
    {fabric : Fabric} {message : Bytes} {error : Error}
    (here : network.brokers[index]? = some broker) (reads : broker.inbound.stream? = some stream)
    (next : (network.fabric.next stream).value = (fabric, .item (.message message)))
    (refused : Envelope.decode message = .error error) :
    network.step (.turn index) = ⟨fabric, network.brokers.set index (broker.misread stream)⟩ := by
  rw [step_turn_put here, Broker.turned_stream reads, next, Broker.found,
    Broker.take_malformed _ refused]
  rfl

/-- If a message and one that begins with it are both accepted, the second has blanks more and
nothing else. So what is left of a message that is accepted when its end is cut off, and the message
with anything but blanks behind it, are refused as undecodable; and the broker that reads them
counts one failure, while its clients, its place on the bus and all other brokers stay the same. -/
theorem spoilt_refused :
    (∀ (b t : Bytes) (envelope envelope' : Envelope), Envelope.decode b = .ok envelope →
      Envelope.decode (b ++ t) = .ok envelope' → Blank t) ∧
    ∀ (envelope accepted : Envelope), Envelope.decode envelope.encode = .ok accepted →
      ∀ message, Envelope.Spoils envelope.encode message →
        (∃ error, Envelope.decode message = .error error ∧ error.kind = .decode) ∧
        ∀ (network : Network) (index : Nat) (broker : Broker) (stream : Stream) (fabric : Fabric),
          network.brokers[index]? = some broker → broker.inbound.stream? = some stream →
          (network.fabric.next stream).value = (fabric, .item (.message message)) →
          network.step (.turn index)
            = ⟨fabric, network.brokers.set index (broker.misread stream)⟩ := by
  constructor
  · intro b t envelope envelope' short long
    exact Envelope.blank_of_decode_append short long
  · intro envelope accepted accepts message spoils
    obtain ⟨error, refused, kind⟩ := Envelope.refuses_spoilt accepts spoils
    refine ⟨⟨error, refused, kind⟩, ?_⟩
    intro network index broker stream fabric here reads next
    exact step_turn_misread here reads next refused

end Network

namespace Chronicle
open Envelope

/-- A message whose last bracket is missing. -/
def torn : Bytes := (encode ⟨"a", brief⟩).dropLast

theorem spoils_torn : Spoils (encode ⟨"a", brief⟩) torn :=
  .cut (t := [0x7D]) (by decide) (by decide)

/-- A foreign write of the torn message. -/
theorem network_torn : (run 4 (joining ++ [.write "room" torn])).network
    = .onHub ⟨4, [⟨"room", 4, 1, [torn], [some 0], true⟩]⟩
      [⟨0, "room", ⟨0, 1, [.opened "a"], .zero⟩, .waiting (.hub 0 0 0), true, false⟩] := by
  have stepped : (run 4 (joining ++ [.write "room" torn])).network
      = (run 4 joining).network.step (.write "room" torn) := rfl
  rw [stepped, network_joining, Network.step_write]
  rfl

theorem spoilt_refused_torn :
    (decode listed = .ok ⟨"a", brief⟩ ∧ decode (listed ++ [0x20]) = .ok ⟨"a", brief⟩ ∧
      Blank [0x20]) ∧
    (∃ error, decode (encode ⟨"a", brief⟩ ++ encode ⟨"", brief⟩) = .error error ∧
      error.kind = .decode) ∧
    (run 4 (joining ++ [.write "room" torn])).network.step (.turn 0)
      = .onHub ⟨4, [⟨"room", 4, 1, [torn], [some 1], true⟩]⟩
        [⟨0, "room", ⟨0, 1, [.opened "a"], ⟨0, 0, 0, 0, 1, 1, 0⟩⟩, .running (.hub 0 0 0),
          true, false⟩] := by
  obtain ⟨delimited, refused⟩ := Network.spoilt_refused
  have spaced := decode_append_blank decode_listed (t := [0x20]) (by simp [Blank])
  refine ⟨⟨decode_listed, spaced, delimited _ _ _ _ decode_listed spaced⟩, ?_, ?_⟩
  · exact (refused _ _ decode_brief _ (spoils_encode _ _)).1
  · have next : ((run 4 (joining ++ [.write "room" torn])).network.fabric.next (.hub 0 0 0)).value
        = (⟨[⟨4, [⟨"room", 4, 1, [torn], [some 1], true⟩]⟩], [], [.memory 0]⟩,
          .item (.message torn)) := by
      rw [network_torn]
      rfl
    have here := congrArg (·.brokers[0]?) network_torn
    rw [(refused _ _ decode_brief _ spoils_torn).2 _ 0 _ _ _ here rfl next, network_torn]
    rfl

end Chronicle

end Fanout
