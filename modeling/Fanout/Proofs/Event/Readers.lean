import Fanout.Proofs.Envelope.Grammar
import Fanout.Proofs.Event.RoundTrip
import Fanout.Proofs.Json.Coarsening

/-! The two readers of events. The one that passes payloads over takes every text that the other one
takes and sees the same event in it. The other one refuses more, for what the payload holds only:
what is beyond its limits, and objects that start with a member of the reserved name and are not what
such an object should be. -/

namespace Fanout.Event
open Text Json

def Parts.map {P Q : Type} (f : P → Q) (parts : Parts P) : Parts Q :=
  ⟨parts.type, parts.scope, parts.payload.map (Option.map f)⟩

theorem coarsens (room : Nat) : (schema (.value room)).Coarsens (schema .skipped)
    (Parts.map fun _ => ()) (Event.map fun _ => ())
    (fun name fault s r => name = "payload" ∧ fault.Excused .value s r) where
  fields := by
    refine .cons ?type (.cons ?scope (.cons ?payload .nil))
    case type =>
      exact Field.coarsens_of Reader.coarsens_text (fun _ => by simp [Parts.map]) fun _ _ => rfl
    case scope =>
      exact Field.coarsens_of Reader.coarsens_text (fun _ => by simp [Parts.map]) fun _ _ => rfl
    case payload =>
      have payload := (@Reader.coarsens_value room).optional
      exact Field.coarsens_of (payload.imp fun excused => ⟨rfl, excused⟩) (fun _ => rfl)
        fun _ _ => rfl
  start := rfl
  build parts := by
    simp only [schema, Parts.map]
    cases parts.type with
    | none => rfl
    | some type =>
      cases parts.payload with
      | none => rfl
      | some payload => cases payload <;> rfl

/-- Between these texts every value is the payload of an event of this type and scope. -/
def PayloadPlace (type scope : String) (front back : Bytes) : Prop :=
  ∀ v : Bytes, Spells .value v →
    check (front ++ (v ++ back)) = .ok ⟨type, scope, presence (some v)⟩

theorem skipped_presence {v : Bytes} (value : Spells .value v) :
    Reader.skipped.optional.run v = .ok (presence (some v), []) := by
  rw [Reader.optional_value value, Reader.skipped_value value, presence]
  split <;> rfl

/-- Another payload is taken as well. -/
theorem takes_payload {front back : List (String × Bytes)} {v u : Bytes} {last : Parts Unit}
    (takes : (schema .skipped).Takes ⟨none, none, none⟩ (front ++ ("payload", v) :: back) last)
    (value : Spells .value u) :
    (schema .skipped).Takes ⟨none, none, none⟩ (front ++ ("payload", u) :: back)
      { last with payload := some (presence (some u)) } := by
  rw [takes_iff] at takes ⊢
  simp only [valuesOf_append, valuesOf_cons, if_true] at takes ⊢
  obtain ⟨types, scopes, payloads⟩ := takes
  refine ⟨types, scopes, ?_⟩
  rcases Reader.gives_none.mp payloads with ⟨absent, _⟩ | ⟨_, _, single, _, _⟩
  · simp at absent
  · obtain ⟨front, back⟩ : valuesOf "payload" front = [] ∧ valuesOf "payload" back = [] := by
      rcases List.append_eq_singleton_iff.mp single with ⟨front, back⟩ | ⟨_, back⟩
      · exact ⟨front, by simpa using congrArg List.tail back⟩
      · simp at back
    rw [front, back]
    exact .set (skipped_presence value)

theorem takesItems_payload {front back : List Bytes} {v u : Bytes} {last : Parts Unit}
    (takes : Field.TakesItems ⟨none, none, none⟩ (schema .skipped).fields
      (front ++ v :: back) last)
    (third : front.length = 2) (value : Spells .value u) :
    Field.TakesItems ⟨none, none, none⟩ (schema .skipped).fields (front ++ u :: back)
      { last with payload := some (presence (some u)) } := by
  obtain ⟨a, b, rfl⟩ := List.length_eq_two.mp third
  simp only [schema, List.cons_append, List.nil_append, Field.takesItems_cons] at takes ⊢
  obtain ⟨type, readType, scope, readScope, payload, _, rest⟩ := takes
  refine ⟨type, readType, scope, readScope, _, skipped_presence value, ?_⟩
  cases rest
  exact .nil

theorem third_of_payload {reader : Reader Value} {n : Nat}
    (found : ((schema reader).fields.map (·.name))[n]? = some "payload") : n = 2 := by
  rcases n with _ | _ | _ | n
  · simp [schema, Field.of] at found
  · simp [schema, Field.of] at found
  · rfl
  · simp [schema] at found

theorem build_payload {last : Parts Unit} {seen : Event Unit} {payload : Option Unit}
    (build : (schema .skipped).build last = .ok seen) :
    (schema .skipped).build { last with payload := some payload }
      = .ok ⟨seen.type, seen.scope, payload⟩ := by
  obtain ⟨type, present, rfl⟩ := build_iff.mp build
  exact build_iff.mpr ⟨type, present, rfl⟩

theorem refused_payload {d : Bytes} (text : Utf8.IsText d) {seen : Event Unit} {fault : Fault}
    (taken : check d = .ok seen) (refused : ofText d = .error fault) :
    ∃ front v back, d = front ++ (v ++ back) ∧ Spells .value v ∧
      PayloadPlace seen.type seen.scope front back ∧ fault.Excused .value (v ++ back) back := by
  obtain ⟨w, p, t, last, before, after, build, accepted⟩ :=
    (coarsens (maxDepth - 1)).refused ofValues_schema text taken refused
  rcases accepted with ⟨ms, rfl, takes, member⟩ | ⟨vs, rfl, takes, item⟩
  · obtain ⟨front, name, v, back, q, q', rfl, rfl, value, place, rfl, excused⟩ := member
    refine ⟨w ++ 0x7B :: q, v, q' ++ t, by simp, value, ?_, excused⟩
    intro u spells
    have object : ObjectText (front ++ ("payload", u) :: back) (0x7B :: (q ++ (u ++ q'))) :=
      ⟨_, place u spells, rfl⟩
    refine (Schema.ofText_iff ofValues_schema).mpr ⟨_, _,
      ⟨w, t, before, object.spells, after, by simp⟩, build_payload build,
      .inl ⟨_, object, takes_payload takes spells⟩⟩
  · obtain ⟨front, name, v, back, q, q', rfl, found, rfl, value, place, rfl, excused⟩ := item
    refine ⟨w ++ 0x5B :: q, v, q' ++ t, by simp, value, ?_, excused⟩
    intro u spells
    have list : ListText (front ++ u :: back) (0x5B :: (q ++ (u ++ q'))) :=
      ⟨_, place u spells, rfl⟩
    have third : front.length = 2 := third_of_payload found
    refine (Schema.ofText_iff ofValues_schema).mpr ⟨_, _,
      ⟨w, t, before, list.spells, after, by simp⟩, build_payload build,
      .inr ⟨_, list, takesItems_payload takes third spells⟩⟩

/-- What is read with its payload is seen without it. What is seen and not read has a payload that
is refused: inside of it a limit is reached, or an object that starts with a member of the reserved
name is refused for what stands there. -/
theorem readers_agree {d : Bytes} (text : Utf8.IsText d) :
    (∀ event, ofText d = .ok event → check d = .ok (event.map fun _ => ())) ∧
    ∀ seen fault, check d = .ok seen → ofText d = .error fault →
      ∃ front v back, d = front ++ (v ++ back) ∧ Spells .value v ∧
        PayloadPlace seen.type seen.scope front back ∧
        (fault.Limits (v ++ back) back ∨
          fault.Inside (v ++ back) back ∧ Embeds fault (v ++ back)) := by
  refine ⟨fun event read => (coarsens (maxDepth - 1)).ofText read, ?_⟩
  intro seen fault taken refused
  exact refused_payload text taken refused

/-! ## Refused payloads -/

/-- Half of a surrogate pair, between quotes. -/
def halfPair : Bytes := [0x22, 0x5C, 0x75, 0x64, 0x63, 0x30, 0x30, 0x22]

theorem isValue_halfPair : IsValue halfPair := by
  refine isValue_iff.mpr ⟨?_, Utf8.isText_ascii (by decide)⟩
  exact .string (.unit (.digits rfl rfl rfl rfl) .nil)

theorem readValue_halfPair (room : Nat) (t : Bytes) :
    readValue room (halfPair ++ t) = fail .loneSurrogate (0x22 :: t) := by
  have digits : UnitText (13 * 4096 + 12 * 256 + 0 * 16 + 0) [0x64, 0x63, 0x30, 0x30] :=
    .digits rfl rfl rfl rfl
  have read : readString (0x5C :: 0x75 :: ([0x64, 0x63, 0x30, 0x30] ++ 0x22 :: t))
      = fail .loneSurrogate (0x22 :: t) :=
    readStringFrom_escapeFault (readEscape_low digits (by decide) (0x22 :: t))
  exact readStage_stringFault (skipSpace_of_head (b := 0x22) rfl _) read

/-- What is seen of an event with a payload that is no `null`. -/
theorem check_payload {payload : Bytes} (value : IsValue payload) (notNull : payload ≠ nullText) :
    Utf8.IsText (writeParts "shift.updated" "" (some payload)) ∧
      check (writeParts "shift.updated" "" (some payload)) = .ok ⟨"shift.updated", "", some ()⟩ := by
  have values : ∀ text ∈ some payload, IsValue text := by
    rintro text ⟨⟩
    exact value
  have taken := check_writeParts "shift.updated" "" values
  rw [presence, if_neg notNull] at taken
  exact ⟨(isValue_writeParts _ _ values).isText, taken⟩

theorem reserved_ne_null : reserved.write ≠ nullText := by
  simp [reserved, Value.write, nullText]

/-- Where half of a surrogate pair is the payload, the reader of payloads stops inside of it for a
limit, and where an object of the reserved name is, for what is wrong with this object. -/
theorem readers_agree_halfPair :
    (∃ front v back, writeParts "shift.updated" "" (some halfPair) = front ++ (v ++ back) ∧
      PayloadPlace "shift.updated" "" front back ∧
      Fault.Limits ⟨.loneSurrogate, [0x22, 0x7D], none⟩ (v ++ back) back) ∧
    ∃ fault front v back, ofText (writeParts "shift.updated" "" (some reserved.write))
        = .error fault ∧
      writeParts "shift.updated" "" (some reserved.write) = front ++ (v ++ back) ∧
      PayloadPlace "shift.updated" "" front back ∧ Embeds fault (v ++ back) := by
  constructor
  · obtain ⟨text, taken⟩ := check_payload isValue_halfPair (by decide)
    have refused : ofText (writeParts "shift.updated" "" (some halfPair))
        = .error ⟨.loneSurrogate, [0x22, 0x7D], none⟩ :=
      ofText_fault
        (Reader.optional_fault isValue_halfPair (by decide) (readValue_halfPair 126 [0x7D]))
    obtain ⟨front, v, back, same, _, place, limits | ⟨inside, _⟩⟩ :=
      (readers_agree text).2 _ _ taken refused
    · exact ⟨front, v, back, same, place, limits⟩
    · exact ⟨front, v, back, same, place, inside, .lone, rfl⟩
  · obtain ⟨text, taken⟩ := check_payload reserved.isValue_write reserved_ne_null
    obtain ⟨front, v, back, same, _, place, limits | ⟨_, embeds⟩⟩ :=
      (readers_agree text).2 _ _ taken ofText_reserved
    · cases limits.limit
    · exact ⟨_, front, v, back, ofText_reserved, same, place, embeds⟩

/-- An event that is seen and not read, for no limit of the reader. -/
theorem refused_within_limits :
    ∃ fault, Utf8.IsText (writeParts "shift.updated" "" (some reserved.write)) ∧
      check (writeParts "shift.updated" "" (some reserved.write))
        = .ok ⟨"shift.updated", "", some ()⟩ ∧
      ofText (writeParts "shift.updated" "" (some reserved.write)) = .error fault ∧
      ¬ fault.cause.IsLimit := by
  obtain ⟨text, taken⟩ := check_payload reserved.isValue_write reserved_ne_null
  exact ⟨_, text, taken, ofText_reserved, nofun⟩

end Fanout.Event
