import Fanout.Http.EventStream
import Fanout.Text.Percent

/-! What a reader of event streams makes of frames. It goes by the rules for such streams: lines end at
a line feed, a carriage return or both together, lines of data are put together with line feeds, and an
empty line ends an event. Every frame is read as one event. -/

namespace Fanout.Http
open Text

/-! ## Reading event streams -/

/-- The lines of a text, the first of which goes on from `line`. What follows the last end of a line
is no line. -/
def linesFrom (line : Bytes) : Bytes → List Bytes
  | [] => []
  | b :: r =>
    if b = 0x0D ∧ r.head? = some 0x0A then linesFrom line r
    else if isLineEnd b then line :: linesFrom [] r
    else linesFrom (line ++ [b]) r

/-- What a line adds to the data of its event. Other fields than `data` do not matter here, and a line
that starts with a colon is a comment, whose field has no name. -/
def dataOf (line : Bytes) : Bytes :=
  let (name, value) := cutAt 0x3A line
  if name = Utf8.encode "data" then
    (match value with
      | 0x20 :: r => r
      | r => r) ++ [0x0A]
  else []

/-- The data of each event that is spelled by lines, the first of which has these data already. An
event without data is left out, and one that no empty line ends is dropped. -/
def eventsFrom (data : Bytes) : List Bytes → List Bytes
  | [] => []
  | [] :: lines =>
    if data = [] then eventsFrom [] lines else data.dropLast :: eventsFrom [] lines
  | line :: lines => eventsFrom (data ++ dataOf line) lines

/-- A byte order mark at the front of a stream is not looked at. -/
def withoutMark : Bytes → Bytes
  | 0xEF :: 0xBB :: 0xBF :: r => r
  | r => r

/-- The data of the events that are read from a stream. -/
def readEvents (s : Bytes) : List Bytes := eventsFrom [] (linesFrom [] (withoutMark s))

/-! ## Frames and comments -/

/-- A message as it is read from its frame. -/
def recovered (message : Message) : Bytes := message.map fun b => if b = 0x0D then 0x0A else b

theorem recovered_of_not_mem {message : Message} (unreturned : 0x0D ∉ message) :
    recovered message = message := by
  refine (List.map_congr_left fun b member => ?_).trans (List.map_id _)
  refine if_neg ?_
  rintro rfl
  exact unreturned member

/-- The comment that keeps a stream alive. -/
def comment (text : Bytes) : Bytes := 0x3A :: text ++ [0x0A, 0x0A]

/-- Frames one after the other, with comments between them. -/
inductive Interspersed : List Bytes → Bytes → Prop where
  | nil : Interspersed [] []
  | framed {frame : Bytes} {frames : List Bytes} {s : Bytes} : Interspersed frames s →
      Interspersed (frame :: frames) (frame ++ s)
  | commented {text : Bytes} {frames : List Bytes} {s : Bytes} :
      (∀ b ∈ text, isLineEnd b = false) → Interspersed frames s →
      Interspersed frames (comment text ++ s)

/-! ## Lines -/

variable {b : UInt8} {data line part text r : Bytes}

theorem linesFrom_plain (plain : isLineEnd b = false) (line r : Bytes) :
    linesFrom line (b :: r) = linesFrom (line ++ [b]) r := by
  have notReturn : b ≠ 0x0D := by
    rintro rfl
    contradiction
  rw [linesFrom, if_neg fun both => notReturn both.1, plain]
  rfl

theorem linesFrom_end (ends : isLineEnd b = true) (alone : r.head? ≠ some 0x0A) (line : Bytes) :
    linesFrom line (b :: r) = line :: linesFrom [] r := by
  rw [linesFrom, if_neg fun both => alone both.2, if_pos ends]

theorem linesFrom_feed (line r : Bytes) :
    linesFrom line (0x0A :: r) = line :: linesFrom [] r := by
  rw [linesFrom, if_neg fun both => absurd both.1 (by decide)]
  rfl

theorem linesFrom_append (plain : ∀ b ∈ text, isLineEnd b = false) (line r : Bytes) :
    linesFrom line (text ++ r) = linesFrom (line ++ text) r := by
  induction text generalizing line with
  | nil => rw [List.append_nil, List.nil_append]
  | cons b text ih =>
    have rest := ih fun c member => plain c (List.mem_cons_of_mem b member)
    rw [List.cons_append, linesFrom_plain (plain b List.mem_cons_self), rest]
    simp

theorem dataLabel_plain : ∀ b ∈ dataLabel, isLineEnd b = false := by
  have plain : dataLabel.all (fun b => !isLineEnd b) = true := rfl
  simpa using plain

theorem dataOf_label (part : Bytes) : dataOf (dataLabel ++ part) = part ++ [0x0A] := rfl

theorem dataOf_comment (text : Bytes) : dataOf (0x3A :: text) = [] := rfl

theorem eventsFrom_label (data part : Bytes) (lines : List Bytes) :
    eventsFrom data ((dataLabel ++ part) :: lines)
      = eventsFrom (data ++ (part ++ [0x0A])) lines := by
  rw [← dataOf_label part]
  rfl

/-! ## Events -/

/-- The rest of a frame, when the events so far and a part of the current line have been read. -/
theorem eventsFrom_message (message : Message) (data part r : Bytes) :
    eventsFrom data (linesFrom (dataLabel ++ part)
        (message.flatMap (fun b => if isLineEnd b then b :: dataLabel else [b])
          ++ 0x0A :: 0x0A :: r))
      = (data ++ (part ++ recovered message)) :: eventsFrom [] (linesFrom [] r) := by
  induction message generalizing data part with
  | nil =>
    rw [List.flatMap_nil, List.nil_append, linesFrom_feed, linesFrom_feed, eventsFrom_label,
      eventsFrom, if_neg (by simp), ← List.append_assoc, List.dropLast_concat]
    simp [recovered]
  | cons b message ih =>
    rw [List.flatMap_cons, List.append_assoc]
    cases ends : isLineEnd b with
    | false =>
      have kept : (if b = 0x0D then 0x0A else b) = b := by
        refine if_neg ?_
        rintro rfl
        contradiction
      rw [if_neg Bool.false_ne_true, List.singleton_append, linesFrom_plain ends,
        List.append_assoc, ih]
      simp [recovered, kept]
    | true =>
      have feed : (if b = 0x0D then 0x0A else b) = 0x0A := by
        simp only [isLineEnd, Bool.or_eq_true, beq_iff_eq] at ends
        rcases ends with rfl | rfl <;> rfl
      -- The label keeps a carriage return apart from a line feed that follows it in the message.
      have alone (s : Bytes) : (dataLabel ++ s).head? ≠ some 0x0A := by
        have first : (dataLabel ++ s).head? = some 0x64 := rfl
        rw [first]
        decide
      rw [if_pos rfl, List.cons_append, linesFrom_end ends (alone _), eventsFrom_label,
        linesFrom_append dataLabel_plain, List.nil_append]
      have rest := ih (data ++ (part ++ [0x0A])) []
      rw [List.append_nil] at rest
      rw [rest]
      simp [recovered, feed]

theorem eventsFrom_frame (message : Message) (r : Bytes) :
    eventsFrom [] (linesFrom [] (frame message ++ r))
      = recovered message :: eventsFrom [] (linesFrom [] r) := by
  have read := eventsFrom_message message [] [] r
  rw [List.append_nil] at read
  simp only [frame, List.append_assoc]
  rw [linesFrom_append dataLabel_plain]
  exact read

theorem eventsFrom_comment (plain : ∀ b ∈ text, isLineEnd b = false) (r : Bytes) :
    eventsFrom [] (linesFrom [] (comment text ++ r)) = eventsFrom [] (linesFrom [] r) := by
  have line : ∀ b ∈ 0x3A :: text, isLineEnd b = false := by
    intro b member
    rcases List.mem_cons.mp member with rfl | member
    · rfl
    · exact plain b member
  have ends : ([0x0A, 0x0A] : Bytes) ++ r = 0x0A :: 0x0A :: r := rfl
  rw [comment, List.append_assoc, linesFrom_append line, List.nil_append, ends, linesFrom_feed,
    linesFrom_feed, eventsFrom, dataOf_comment]
  · rfl
  · exact List.cons_ne_nil _ _

/-- A stream starts with no byte order mark. -/
theorem Interspersed.withoutMark {messages : List Message} {s : Bytes}
    (streams : Interspersed (messages.map frame) s) : withoutMark s = s := by
  generalize same : messages.map frame = frames at streams
  cases streams with
  | nil => rfl
  | framed =>
    obtain ⟨message, _, _, rfl, _⟩ := List.map_eq_cons_iff.mp same
    rfl
  | commented => rfl

/-- Frames are read as one event each, in their order. -/
theorem Interspersed.readEvents {messages : List Message} {s : Bytes}
    (streams : Interspersed (messages.map frame) s) :
    readEvents s = messages.map recovered := by
  rw [Http.readEvents, streams.withoutMark]
  generalize framed : messages.map frame = frames at streams
  induction streams generalizing messages with
  | nil =>
    cases List.map_eq_nil_iff.mp framed
    rfl
  | framed _ ih =>
    obtain ⟨message, messages, rfl, rfl, rest⟩ := List.map_eq_cons_iff.mp framed
    rw [eventsFrom_frame, ih rest, List.map_cons]
  | commented plain _ ih =>
    rw [eventsFrom_comment plain, ih framed]

/-- Both bytes of a line end come back as line feeds. -/
example : readEvents (frame [0x5B, 0x0D, 0x0A, 0x5D]) = [[0x5B, 0x0A, 0x0A, 0x5D]] := by rfl

end Fanout.Http
