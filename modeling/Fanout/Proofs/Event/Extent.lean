import Fanout.Proofs.Event
import Fanout.Proofs.Json.Reading

/-! How far the scanners go. Skipped or kept as it stands, a value ends where its text ends, unless
it is a numeral and what follows goes on with it. So whatever was written is taken to its last byte
and no further, before a blank, a comma, a closing bracket or the end; and a written string whatever
follows it. -/

namespace Fanout.Json
open Text

variable {v t u : Bytes} {inside : List Bracket}

/-- The text `v` has an end in front of `t`: it is no numeral that goes on there. -/
def EndsBefore (v t : Bytes) : Prop := ∀ n, NumeralText n v → n.EndsBefore t

/-- Of `v` and what follows it, `v` is taken for the value and nothing else. -/
structure Consumes (v t : Bytes) : Prop where
  kept : Reader.raw.run (v ++ t) = .ok (v, t)
  skipped : skipValue (v ++ t) = .ok t

/-! ## Ends -/

theorem Ended.endsBefore_value (ended : Ended t) : EndsBefore v t :=
  fun n _ => ended.endsBefore n

/-- A text has at most one numeral that it spells. -/
theorem NumeralText.unique {n m : Numeral} (first : NumeralText n v) (second : NumeralText m v) :
    n = m := by
  have read := first.numeral (ended_nil.endsBefore n) .invalidNumber
  rw [second.numeral (ended_nil.endsBefore m) .invalidNumber] at read
  cases read
  rfl

theorem NumeralText.endsBefore_of_skipValue {n : Numeral} (text : NumeralText n v)
    (scan : skipValue (v ++ t) = .ok t) : n.EndsBefore t := by
  obtain ⟨b, r, same, first, notBlank⟩ := numeral_first text t
  have skips := skips_of_skipDue scan
  rw [same] at skips
  -- The scan starts with a numeral, and with no bracket open it stops behind that.
  obtain ⟨m, u, read, last⟩ := skips.of_digit (skipSpace_of_head notBlank r) first
  cases last
  rw [← same] at read
  obtain ⟨p, read, ends, same⟩ := numeral_spec read
  obtain rfl := List.append_cancel_right same
  rwa [text.unique read]

/-- Strings, words, lists and objects end by themselves. -/
theorem Spells.skips (text : Spells .value v) (ends : EndsBefore v t)
    (last : Skips .next inside t u) : Skips .value inside (v ++ t) u := by
  cases text with
  | word isWord => exact skips_word isWord last
  | numeral text => exact skips_numeral text (ends _ text) last
  | string text => simpa using skips_string (text.skipString t) last
  | @bracketed bracket p inner => exact .opening (skipSpace_opening bracket _) (inner.passed last)

/-- The scanners stop right behind a value exactly if it has an end there. -/
theorem IsValue.consumes_iff (value : IsValue v) : Consumes v t ↔ EndsBefore v t := by
  constructor
  · intro consumed n text
    exact text.endsBefore_of_skipValue consumed.skipped
  · intro ends
    have skipped := skipDue_of_skips ((isValue_iff.mp value).1.skips ends .done)
    exact ⟨value.readRaw_of_skipValue skipped, skipped⟩

theorem IsValue.consumes (value : IsValue v) (ended : Ended t) : Consumes v t :=
  value.consumes_iff.mpr ended.endsBefore_value

/-! ## Strings -/

theorem endsBefore_writeString (s : String) (t : Bytes) : EndsBefore (writeString s) t := by
  intro n text
  obtain ⟨b, r, same, first⟩ := text.head
  cases same
  simp [isDigit] at first

theorem consumes_writeString (s : String) (t : Bytes) : Consumes (writeString s) t :=
  (isName_writeString s).isValue.consumes_iff.mpr (endsBefore_writeString s t)

theorem readString_writeString (s : String) (t : Bytes) :
    ∃ r, writeString s ++ t = 0x22 :: r ∧ readString r = .ok (s, t) ∧ skipString r = .ok t :=
  ⟨writeTail s.toList ++ t, rfl, readString_writeTail s t, skipString_writeTail s.toList t⟩

/-! ## What was written -/

/-- Values of any depth and payloads of every kind are taken as far as they were written, and so is
a string, also by the readers of strings, of which one gives it back. -/
theorem consumes_written :
    (∀ (v : Value) (t : Bytes), Ended t → Consumes v.write t) ∧
    (∀ (payload : Payload) (text t : Bytes), payload.write = .ok text → Ended t →
      Consumes text t) ∧
    ∀ (s : String) (t : Bytes), Consumes (writeString s) t ∧
      Reader.text.run (writeString s ++ t) = .ok (s, t) ∧
      ∃ r, writeString s ++ t = 0x22 :: r ∧ readString r = .ok (s, t) ∧ skipString r = .ok t := by
  refine ⟨?_, ?_, ?_⟩
  · intro v t ended
    exact v.isValue_write.consumes ended
  · intro payload text t written ended
    exact (Payload.isValue_of_write written).consumes ended
  · intro s t
    exact ⟨consumes_writeString s t, Reader.text_writeString s t, readString_writeString s t⟩

/-- A value with empty and full brackets, escapes in its names and strings, and numbers of every
form. -/
def assorted : Value :=
  .object [("\"k", .array [.null, .array [], .object [], .number (.integer (-12)),
    .number (.float 1.5), .number (.float (-1e-7))]), ("\n", .string "\\\x01é")]

/-- A map with a number for a key, and numbers of both precisions. -/
def keyed : Payload := .map [(.integer 3, .list [.single 0.1, .float 2.5e300])]

theorem consumes_written_assorted :
    assorted.write = Utf8.encode
      "\x7b\"\\\"k\":[null,[],\x7b\x7d,-12,1.5,-1e-7],\"\\n\":\"\\\\\\u0001é\"\x7d" ∧
    Ended [0x5D, 0xFF] ∧ Consumes assorted.write [0x5D, 0xFF] ∧
    keyed.write = .ok (Utf8.encode "\x7b\"3\":[0.1,2.5e+300]\x7d") ∧
    Consumes (Utf8.encode "\x7b\"3\":[0.1,2.5e+300]\x7d") [0x5D, 0xFF] ∧
    Consumes (writeString "\\\"") [0x22] := by
  have ended : Ended [0x5D, 0xFF] := ended_close .list [0xFF]
  have written : keyed.write = .ok (Utf8.encode "\x7b\"3\":[0.1,2.5e+300]\x7d") := by
    decide +kernel
  refine ⟨by decide +kernel, ended, ?_, written, ?_, ?_⟩
  · exact consumes_written.1 assorted _ ended
  · exact consumes_written.2.1 keyed _ _ written ended
  · exact (consumes_written.2.2 "\\\"" [0x22]).1

end Fanout.Json
