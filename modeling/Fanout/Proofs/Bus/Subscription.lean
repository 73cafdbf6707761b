import Fanout.Proofs.Bus.Uses
import Mathlib.Data.List.Induction

/-! A subscription accounts for its channel. Whatever is done with a bus in memory and its clones, the
items that one subscriber reads stand, in order, for all that was written to its channel from its
beginning to the next shutdown: each message either comes by itself or is one of those that a gap
covers. There is a gap only where more was unread than the bus keeps, and what is kept comes next. -/

namespace Fanout

/-! ## What items stand for -/

theorem Next.item?_eq_some {next : Next} {item : BusItem} :
    next.item? = some item ↔ next = .item item := by
  cases next <;> simp [Next.item?]

theorem findOn_ne_lagged (isOpen : Bool) (queue : List Bytes) (lost : Nat) :
    findOn isOpen queue ≠ .item (.lagged lost) := by
  cases queue with
  | nil => cases isOpen <;> simp [findOn]
  | cons => simp [findOn]

/-- Items that stand for messages: each for itself, or a gap for as many as it counts. -/
inductive Covers : List BusItem → List Bytes → Prop where
  | nil : Covers [] []
  | message {message : Bytes} {items : List BusItem} {messages : List Bytes} :
      Covers items messages → Covers (.message message :: items) (message :: messages)
  | lagged {lost : List Bytes} {items : List BusItem} {messages : List Bytes} : lost ≠ [] →
      Covers items messages → Covers (.lagged lost.length :: items) (lost ++ messages)

theorem Covers.append {items items' : List BusItem} {messages messages' : List Bytes}
    (first : Covers items messages) (second : Covers items' messages') :
    Covers (items ++ items') (messages ++ messages') := by
  induction first with
  | nil => exact second
  | message _ ih => exact .message ih
  | lagged some _ ih =>
    rw [List.append_assoc]
    exact .lagged some ih

/-- A gap for the first messages of a list that is longer. -/
theorem covers_lagged {messages : List Bytes} {n room : Nat} (longer : room < messages.length)
    (rest : n = messages.length - room) : Covers [.lagged n] (messages.take n) := by
  have length : (messages.take n).length = n := by
    rw [List.length_take]
    omega
  have covers : Covers [.lagged (messages.take n).length] (messages.take n ++ []) :=
    .lagged (List.ne_nil_of_length_pos (by omega)) .nil
  rwa [length, List.append_nil] at covers

/-- Items without a gap stand each for itself. -/
theorem Covers.eq_map {items : List BusItem} {messages : List Bytes} (covers : Covers items messages)
    (noGap : ∀ lost, .lagged lost ∉ items) : items = messages.map .message := by
  induction covers with
  | nil => rfl
  | message _ ih =>
    rw [List.map_cons, ih fun lost member => noGap lost (List.mem_cons_of_mem _ member)]
  | lagged => exact absurd List.mem_cons_self (noGap _)

/-! ## One reader -/

namespace View

variable {view : View} {queue : List Bytes}

/-- A reader that has fallen behind comes to a gap, and then to all that is kept. -/
theorem Holds.lag (holds : view.Holds queue) (behind : view.capacity < view.unread) :
    view.next.2 = .item (.lagged (queue.length - view.capacity)) ∧
      view.next.1.Holds (queue.drop (queue.length - view.capacity)) := by
  have unread := holds.unread
  rw [View.next, if_pos behind, unread]
  refine ⟨rfl, ?_, ?_⟩
  · simp only [List.length_drop]
    omega
  · have kept : (queue.drop (queue.length - view.capacity)).length - view.capacity = 0 := by
      simp only [List.length_drop]
      omega
    simp only [kept, List.drop_zero]
    exact holds.recent

/-- What is found next stands for the messages up to what is left. -/
theorem Holds.take (holds : view.Holds queue) : ∃ passed left, queue = passed ++ left ∧
    Covers view.next.2.item?.toList passed ∧ view.next.1.Holds left := by
  by_cases behind : view.capacity < view.unread
  · obtain ⟨found, holds'⟩ := holds.lag behind
    rw [found]
    exact ⟨_, _, (List.take_append_drop (queue.length - view.capacity) queue).symm,
      covers_lagged (holds.unread ▸ behind) rfl, holds'⟩
  · obtain ⟨found, holds', _⟩ := holds.next (Nat.le_of_not_lt behind)
    rw [found]
    cases queue with
    | nil =>
      refine ⟨[], [], rfl, ?_, holds'⟩
      cases view.isOpen <;> exact .nil
    | cons message queue => exact ⟨[message], queue, rfl, .message .nil, holds'⟩

theorem frame_next (view : View) : view.next.1.name = view.name ∧
    view.next.1.capacity = view.capacity ∧ view.next.1.isOpen = view.isOpen := by
  unfold next
  split
  · exact ⟨rfl, rfl, rfl⟩
  · split <;> exact ⟨rfl, rfl, rfl⟩

end View

/-! ## A subscription through a run -/

namespace Use

variable {clones k reader : Nat} {hub : Hub} {uses : List (Use clones)} {fabric : Fabric}
  {stream : Stream} {channel : String}

theorem run_snoc (fabric : Fabric) (uses : List (Use clones)) (use : Use clones) :
    run fabric (uses ++ [use]) = use.perform (run fabric uses) := by
  simp [run]

theorem items_append (stream : Stream) (fabric : Fabric) (uses uses' : List (Use clones)) :
    items stream fabric (uses ++ uses')
      = items stream fabric uses ++ items stream (run fabric uses) uses' := by
  induction uses generalizing fabric with
  | nil => rfl
  | cons use uses ih => simp [items, ih, run]

theorem items_snoc (stream : Stream) (fabric : Fabric) (uses : List (Use clones))
    (use : Use clones) : items stream fabric (uses ++ [use])
      = items stream fabric uses ++ (use.item? stream (run fabric uses)).toList := by
  rw [items_append, items, items, List.append_nil]

/-- Every item was read at some point. -/
theorem mem_items {item : BusItem} (member : item ∈ items stream fabric uses) :
    ∃ part rest, uses = part ++ .next stream :: rest ∧
      ((run fabric part).next stream).value.2 = .item item := by
  induction uses generalizing fabric with
  | nil => contradiction
  | cons use uses ih =>
    rcases List.mem_append.mp member with now | later
    · cases use with
      | next other =>
        simp only [item?] at now
        split at now
        · rename_i same
          subst same
          refine ⟨[], uses, rfl, ?_⟩
          rw [Option.mem_toList] at now
          exact Next.item?_eq_some.mp now
        · contradiction
      | write | subscribe | drop | shutdown => contradiction
    · obtain ⟨part, rest, rfl, found⟩ := ih later
      exact ⟨use :: part, rest, rfl, found⟩

theorem posted_snoc (channel : String) (uses : List (Use clones)) (use : Use clones) :
    posted channel (uses ++ [use]) = posted channel uses
      ++ if uses.any ends then [] else (use.message? channel).toList := by
  rw [posted, takeWhile_concat, List.filterMap_append, ← posted, ← List.not_any_eq_all_not]
  congr 1
  cases uses.any ends with
  | true => rfl
  | false =>
    cases use with
    | write bus name message => by_cases same : name = channel <;> simp [ends, message?, same]
    | subscribe | next | drop | shutdown => rfl

/-- Where a subscription stands after some uses: what of its messages it is past, and what it has
to come to. -/
structure Stands (opened : Fabric) (channel : String) (room k reader : Nat)
    (uses : List (Use clones)) (hub : Hub) (view : View) (covered left : List Bytes) : Prop where
  reached : run opened uses = .shared hub clones
  sane : hub.Sane
  sees : hub.view? k reader = some view
  holds : view.Holds left
  name : view.name = channel
  capacity : view.capacity = room
  isOpen : view.isOpen = !uses.any ends
  posted : posted channel uses = covered ++ left
  covers : Covers (items (.hub 0 k reader) opened uses) covered

namespace Stands

variable {opened : Fabric} {room : Nat} {view : View} {covered left : List Bytes}

theorem unread_eq (stands : Stands opened channel room k reader uses hub view covered left) :
    (run opened uses).unread (.hub 0 k reader) = left.length := by
  have sees : (Fabric.shared hub clones).view? (.hub 0 k reader) = some view := stands.sees
  have sane : (Fabric.shared hub clones).Sane := by
    intro h memory here
    cases List.mem_singleton.mp (List.mem_of_getElem? here)
    exact stands.sane
  rw [stands.reached, (Fabric.sees_of_view? sane sees).unread_eq, stands.holds.unread]

theorem next_eq (stands : Stands opened channel room k reader uses hub view covered left) :
    ((run opened uses).next (.hub 0 k reader)).value.2 = view.next.2 := by
  rw [stands.reached, shared_next]
  exact (Hub.view?_next stands.sane stands.sees).1

/-- The reader's own read, which takes it past some messages. -/
theorem reads (passed : List Bytes)
    (stands : Stands opened channel room k reader uses hub view covered (passed ++ left))
    (covers : Covers view.next.2.item?.toList passed) (holds : view.next.1.Holds left) :
    Stands opened channel room k reader (uses ++ [.next (.hub 0 k reader)]) (hub.next k reader).1
      view.next.1 (covered ++ passed) left := by
  have frame := view.frame_next
  have read : Use.item? (.hub 0 k reader) (run opened uses) (.next (.hub 0 k reader) : Use clones)
      = view.next.2.item? := by
    simp only [item?, if_pos, stands.next_eq]
  constructor
  case reached => rw [run_snoc, stands.reached, perform_shared, onHub]
  case sane => exact stands.sane.keeps (stands.sane.moves_next k reader).1.toKeeps
  case sees => exact (Hub.view?_next stands.sane stands.sees).2
  case holds => exact holds
  case name => exact frame.1.trans stands.name
  case capacity => exact frame.2.1.trans stands.capacity
  case isOpen => simp [frame.2.2, stands.isOpen, ends]
  case posted => simp [posted_snoc, message?, stands.posted]
  case covers =>
    rw [items_snoc, read]
    exact stands.covers.append covers

/-- What others do, and what the reader does otherwise. -/
theorem meets (stands : Stands opened channel room k reader uses hub view covered left)
    {use : Use clones} (notNext : use ≠ .next (.hub 0 k reader))
    (notDrop : use ≠ .drop (.hub 0 k reader)) :
    Stands opened channel room k reader (uses ++ [use]) (use.onHub hub) (view.meets use) covered
      (left ++ if uses.any ends then [] else (use.message? channel).toList) := by
  have silent : use.item? (.hub 0 k reader) (run opened uses) = none := by
    cases use with
    | next other => exact if_neg fun same => notNext (by rw [same])
    | write | subscribe | drop | shutdown => rfl
  have frame := view.frame_meets use
  constructor
  case reached => rw [run_snoc, stands.reached, perform_shared]
  case sane => exact sane_onHub stands.sane use
  case sees => exact view?_onHub stands.sane stands.sees notNext notDrop
  case holds =>
    have holds := stands.holds.meets use
    rw [stands.isOpen, stands.name] at holds
    cases ended : uses.any ends <;> simpa [ended] using holds
  case name => exact frame.1.trans stands.name
  case capacity => exact frame.2.1.trans stands.capacity
  case isOpen => simp [frame.2.2, stands.isOpen]
  case posted => rw [posted_snoc, stands.posted, List.append_assoc]
  case covers => simpa only [items_snoc, silent, Option.toList, List.append_nil] using stands.covers

/-- A reader that keeps up comes to all messages that are left, and then to the end of them. -/
theorem drain (stands : Stands opened channel room k reader uses hub view covered left)
    (keepsUp : left.length ≤ room) {n : Nat} (enough : left.length ≤ n) :
    items (.hub 0 k reader) (run opened uses)
        (List.replicate n (.next (.hub 0 k reader)) : List (Use clones)) = left.map .message ∧
      ∃ hub' view', Stands opened channel room k reader
        (uses ++ List.replicate n (.next (.hub 0 k reader))) hub' view' (covered ++ left) [] := by
  induction n generalizing uses hub view covered left with
  | zero =>
    cases List.length_eq_zero_iff.mp (Nat.le_zero.mp enough)
    exact ⟨rfl, hub, view, by simpa using stands⟩
  | succ n ih =>
    have room' : view.unread ≤ view.capacity := by
      rw [stands.holds.unread, stands.capacity]
      exact keepsUp
    obtain ⟨found, holds, _⟩ := stands.holds.next room'
    have next := stands.next_eq.trans found
    rw [List.replicate_succ, items, ← run_snoc]
    simp only [item?, if_pos, next]
    cases left with
    | nil =>
      have nothing : Covers (findOn view.isOpen []).item?.toList [] := by
        cases view.isOpen <;> exact .nil
      have stands' := stands.reads [] (found ▸ nothing) holds
      obtain ⟨items, hub', view', last⟩ := ih stands' (Nat.zero_le _) (Nat.zero_le _)
      refine ⟨?_, hub', view', ?_⟩
      · rw [items]
        cases view.isOpen <;> rfl
      · simpa using last
    | cons message left =>
      have one : Covers (findOn view.isOpen (message :: left)).item?.toList [message] :=
        .message .nil
      have stands' := stands.reads [message] (found ▸ one) holds
      obtain ⟨items, hub', view', last⟩ := ih stands' (Nat.le_of_succ_le keepsUp)
        (Nat.le_of_succ_le_succ enough)
      refine ⟨?_, hub', view', by simpa using last⟩
      rw [items]
      rfl

end Stands

/-- Wherever a run comes to, a subscription that is not given up stands somewhere. -/
theorem exists_stands {opened : Hub} {room : Nat} (sane : opened.Sane)
    (sees : opened.view? k reader = some ⟨channel, room, true, 0, []⟩) (uses : List (Use clones))
    (kept : .drop (.hub 0 k reader) ∉ uses) : ∃ hub view covered left,
      Stands (.shared opened clones) channel room k reader uses hub view covered left := by
  induction uses using List.reverseRecOn with
  | nil => exact ⟨opened, _, [], [], rfl, sane, sees, ⟨rfl, List.drop_nil.symm⟩, rfl, rfl, rfl,
      rfl, .nil⟩
  | append_singleton uses use ih =>
    obtain ⟨hub, view, covered, left, stands⟩ := ih fun dropped =>
      kept (List.mem_append_left _ dropped)
    by_cases own : use = .next (.hub 0 k reader)
    · obtain ⟨passed, left', rfl, covers, holds⟩ := stands.holds.take
      exact ⟨_, _, _, _, own ▸ stands.reads _ covers holds⟩
    · exact ⟨_, _, _, _, stands.meets own fun dropped => kept (by simp [dropped])⟩

/-- What is found next, as the number of unread messages decides it. -/
theorem Stands.next_found {opened : Fabric} {room : Nat} {view : View} {covered left : List Bytes}
    (stands : Stands opened channel room k reader uses hub view covered left) :
    ((run opened uses).next (.hub 0 k reader)).value.2 = if room < left.length then
      .item (.lagged (left.length - room)) else findOn (!uses.any ends) left := by
  rw [stands.next_eq]
  split
  · rename_i behind
    rw [← stands.capacity] at behind ⊢
    exact (stands.holds.lag (stands.holds.unread ▸ behind)).1
  · rename_i keepsUp
    rw [← stands.capacity, ← stands.holds.unread] at keepsUp
    rw [← stands.isOpen]
    exact (stands.holds.next (Nat.le_of_not_lt keepsUp)).1

/-- The accounts of a subscription after some uses: of what was written to its channel before a
shutdown it is past some messages, for which it read its items, and has the others to come to. -/
structure Accounts (capacity room : Nat) (channel : String) (stream : Stream) (opened : Fabric)
    (uses : List (Use clones)) (covered left : List Bytes) : Prop where
  posted : posted channel uses = covered ++ left
  covers : Covers (items stream opened uses) covered
  /-- Nothing is lost on a reader that never is further behind than was asked for. -/
  lossless : (∀ part rest, uses = part ++ .next stream :: rest →
    (run opened part).unread stream ≤ capacity) → items stream opened uses = covered.map .message
  unread : (run opened uses).unread stream = left.length
  next : ((run opened uses).next stream).value.2 = if room < left.length then
    .item (.lagged (left.length - room)) else findOn (!uses.any ends) left
  /-- Once nothing more is done but to read, the newest messages come, and then the end of them. -/
  drain : ∀ n, left.length ≤ n →
    items stream (run opened uses) (List.replicate n (.next stream) : List (Use clones))
      = (if room < left.length then [.lagged (left.length - room)] else [])
        ++ (left.drop (left.length - room)).map .message ∧
    ((run opened (uses ++ List.replicate n (.next stream))).next stream).value.2
      = if uses.any ends then .ended else .pending

theorem Stands.drain_lagged {opened : Fabric} {room : Nat} {view : View} {covered left : List Bytes}
    (stands : Stands opened channel room k reader uses hub view covered left) {n : Nat}
    (enough : left.length ≤ n) :
    items (.hub 0 k reader) (run opened uses)
        (List.replicate n (.next (.hub 0 k reader)) : List (Use clones))
      = (if room < left.length then [.lagged (left.length - room)] else [])
        ++ (left.drop (left.length - room)).map .message ∧
    ∃ hub' view' covered', Stands opened channel room k reader
      (uses ++ List.replicate n (.next (.hub 0 k reader))) hub' view' covered' [] := by
  by_cases behind : room < left.length
  · obtain ⟨n, rfl⟩ := Nat.exists_eq_add_one_of_ne_zero (n := n) (by omega)
    have capacity := stands.capacity
    obtain ⟨found, holds⟩ := stands.holds.lag (by rw [stands.holds.unread, capacity]; exact behind)
    rw [capacity] at found holds
    have split := List.take_append_drop (left.length - room) left
    have gap := covers_lagged behind rfl
    have stands' := Stands.reads _ (by rwa [split]) (by rw [found]; exact gap) holds
    have length : (left.drop (left.length - room)).length = room := by
      rw [List.length_drop]
      omega
    obtain ⟨rest, hub', view', last⟩ := stands'.drain (n := n) (by omega) (by omega)
    refine ⟨?_, hub', view', _, by simpa [List.replicate_succ] using last⟩
    rw [List.replicate_succ, items, ← run_snoc, rest, if_pos behind]
    simp only [item?, if_pos, stands.next_eq, found]
    rfl
  · obtain ⟨rest, hub', view', last⟩ := stands.drain (Nat.le_of_not_lt behind) enough
    rw [if_neg behind, Nat.sub_eq_zero_of_le (Nat.le_of_not_lt behind)]
    exact ⟨rest, hub', view', _, last⟩

theorem Stands.accounts {opened : Hub} {capacity room : Nat} (enough : capacity ≤ room)
    (sane : opened.Sane) (sees : opened.view? k reader = some ⟨channel, room, true, 0, []⟩)
    {uses : List (Use clones)} (kept : .drop (.hub 0 k reader) ∉ uses) :
    ∃ covered left, Accounts capacity room channel (.hub 0 k reader) (.shared opened clones) uses
      covered left := by
  obtain ⟨hub, view, covered, left, stands⟩ := exists_stands sane sees uses kept
  refine ⟨covered, left, ?_⟩
  constructor
  case posted => exact stands.posted
  case covers => exact stands.covers
  case lossless =>
    intro keepsUp
    refine stands.covers.eq_map fun lost member => ?_
    obtain ⟨part, rest, rfl, found⟩ := mem_items member
    obtain ⟨hub', view', covered', left', stands'⟩ := exists_stands sane sees part fun dropped =>
      kept (List.mem_append_left _ dropped)
    have atMost := keepsUp part rest rfl
    rw [stands'.unread_eq] at atMost
    rw [stands'.next_found, if_neg (by omega)] at found
    exact findOn_ne_lagged _ _ _ found
  case unread => exact stands.unread_eq
  case next => exact stands.next_found
  case drain =>
    intro n reached
    obtain ⟨rest, hub', view', covered', last⟩ := stands.drain_lagged reached
    refine ⟨rest, ?_⟩
    rw [last.next_found, List.length_nil, if_neg (Nat.not_lt_zero _)]
    have same : (uses ++ List.replicate n (Use.next (.hub 0 k reader))).any ends
        = uses.any ends := by
      rw [List.any_append, List.any_replicate]
      cases n <;> simp [ends]
    rw [same]
    cases uses.any ends <;> rfl

/-- Whatever was done before, the hub is in order. -/
theorem exists_run_shared (capacity clones : Nat) (uses : List (Use clones)) :
    ∃ hub, run (.shared (.new capacity) clones) uses = .shared hub clones ∧
      hub.Uniform capacity ∧ hub.Sane := by
  induction uses using List.reverseRecOn with
  | nil => exact ⟨.new capacity, rfl, Hub.uniform_new capacity, Hub.sane_new capacity⟩
  | append_singleton uses use ih =>
    obtain ⟨hub, reached, uniform, sane⟩ := ih
    refine ⟨use.onHub hub, ?_, uniform_onHub uniform use, sane_onHub sane use⟩
    rw [run_snoc, reached, perform_shared]

/-- A subscription to a bus in memory, through any clone of it and at any time, is answered by a
stream of its own. Until it is given up, whatever is done with the bus, its clones and other streams,
the items read from it account for the messages that were written to its channel before a shutdown,
in their order, and the bus keeps as many for it as the least power of two that is enough. -/
theorem subscription_accounts (capacity clones : Nat) (before after : List (Use clones))
    (bus : Fin (clones + 1)) (channel : String) : ∃ room stream opened,
      IsLeast {p : Nat | p.isPowerOfTwo ∧ max 1 capacity ≤ p} room ∧
      ((run (.shared (.new capacity) clones) before).subscribe bus channel).value
        = (opened, .ok stream) ∧
      (.drop stream ∉ after → ∃ covered left,
        Accounts capacity room channel stream opened after covered left) := by
  obtain ⟨hub, reached, uniform, sane⟩ := exists_run_shared capacity clones before
  have least := Channel.isLeast_capacity "" capacity
  have enough : capacity ≤ (Channel.new "" capacity).capacity :=
    Nat.le_trans (Nat.le_max_right ..) least.1.2
  refine ⟨_, _, _, least, by rw [reached, shared_subscribe], fun kept => ?_⟩
  exact Stands.accounts enough (sane.subscribe channel) (Hub.view?_subscribe uniform rfl).2 kept

def earlier : List (Use 1) := [.write 0 "room" [0]]

/-- A subscriber on a clone falls behind by one before the bus is shut down. -/
def lagging : List (Use 1) :=
  [.write 0 "room" [1], .write 1 "room" [2], .write 0 "hall" [7], .subscribe 0 "room",
    .write 0 "room" [3], .next (.hub 0 0 0), .shutdown 1, .write 0 "room" [4]]

theorem subscription_accounts_lagging : ∃ opened covered left,
    ((run (.shared (.new 2) 1) earlier).subscribe 1 "room").value = (opened, .ok (.hub 0 0 0)) ∧
    Use.drop (.hub 0 0 0) ∉ lagging ∧ posted "room" lagging = [[1], [2], [3]] ∧
    Accounts 2 2 "room" (.hub 0 0 0) opened lagging covered left ∧
    items (.hub 0 0 0) opened lagging = [.lagged 1] := by
  obtain ⟨room, stream, opened, least, subscribed, accounts⟩ :=
    subscription_accounts 2 1 earlier lagging 1 "room"
  have two : IsLeast {p : Nat | p.isPowerOfTwo ∧ max 1 2 ≤ p} 2 :=
    ⟨⟨⟨1, rfl⟩, by decide⟩, fun p member => member.2⟩
  have first : stream = .hub 0 0 0 := by
    have answer := congrArg (·.2) subscribed
    cases answer
    rfl
  subst first
  rw [least.unique two] at accounts
  have kept : Use.drop (.hub 0 0 0) ∉ lagging := by decide
  obtain ⟨covered, left, accounts⟩ := accounts kept
  refine ⟨opened, covered, left, subscribed, kept, by decide, accounts, ?_⟩
  have made : .shared ⟨2, [⟨"room", Nat.nextPowerOfTwo 2, 0, [], [some 0], true⟩]⟩ 1 = opened :=
    congrArg (·.1) subscribed
  have power : Nat.nextPowerOfTwo 2 = 2 := by cbv
  rw [← made, power]
  decide

end Use

end Fanout
