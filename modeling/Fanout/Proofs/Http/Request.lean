import Fanout.Http.Router
import Fanout.Proofs.Text.Percent
import Mathlib.Data.List.TakeWhile

/-! What a request comes to. Only a request for events makes a subscription, and it makes the one that
its scope is subscribed to with; every other request leaves the network alone. -/

namespace Fanout.Http
open Text

/-- The scope of the events that a request asks for, if it asks for events. -/
def asked? (method target : String) : Option String :=
  match checkMethod method, Target.ofBytes (Utf8.encode target) with
  | .ok (), .ok target =>
    if target.path = Utf8.encode "/events" ∧ (method = "GET" ∨ method = "HEAD") then
      scopeOf? target.query
    else none
  | _, _ => none

/-- The status that a request is answered with, unless the answer is cut off. -/
def Answer.status? : Answer → Option Nat
  | .plain response | .streaming response _ => some response.status
  | .queueTooLong => none

/-- What is left, and what is answered, when a stream for this scope was asked for. -/
def streamed (network : Network) (broker : Nat) (method scope : String) : Network × Answer :=
  match network.subscribe broker scope with
  | none => (network, .queueTooLong)
  | some joined =>
    if method = "HEAD" then
      (((⟨joined.value.2, scope⟩ : EventStream).drop joined.value.1).value,
        .streaming .eventStream none)
    else (joined.value.1, .streaming .eventStream (some ⟨joined.value.2, scope⟩))

variable {network : Network} {broker : Nat} {method target scope : String}

theorem find?_eq_events_iff {path : Bytes} :
    Endpoint.find? path = some .events ↔ path = Utf8.encode "/events" := by
  simp only [Endpoint.find?, endpoints, List.find?_cons]
  constructor
  · intro found
    repeat' split at found
    all_goals simp_all
  · rintro rfl
    decide

theorem get_other {endpoint : Endpoint} (other : endpoint ≠ .events) (query : Bytes) :
    ∃ response, (get network broker endpoint query).value = (network, .plain response) := by
  cases endpoint with
  | events => contradiction
  | description | page => exact ⟨_, rfl⟩
  | health =>
    refine ⟨.document 200 plainText (Utf8.encode "healthy"), ?_⟩
    simp only [get]
    split <;> rfl

theorem get_repeated {query : Bytes} (repeated : scopeOf? query = none) :
    (get network broker .events query).value = (network, .plain .repeatedScope) := by
  simp only [get, repeated, Logged.value_pure]

theorem get_events {query : Bytes} (asks : scopeOf? query = some scope) :
    (get network broker .events query).value = match network.subscribe broker scope with
      | none => (network, .queueTooLong)
      | some joined =>
        (joined.value.1, .streaming .eventStream (some ⟨joined.value.2, scope⟩)) := by
  simp only [get, asks, EventStream.start?, Logged.value_bind]
  cases network.subscribe broker scope <;> rfl

/-- A response without a stream changes nothing further if its body is left out. -/
theorem withoutBody_plain (response : Response) :
    (withoutBody network (.plain response)).value
      = (network, .plain { response with body := [] }) := rfl

theorem respond_events {query : Bytes} (asks : scopeOf? query = some scope)
    (reads : method = "GET" ∨ method = "HEAD") :
    (respond network broker method ⟨Utf8.encode "/events", query⟩).value
      = streamed network broker method scope := by
  have slash : Utf8.encode "/events" = 0x2F :: Utf8.encode "events" := rfl
  simp only [respond, slash]
  rw [← slash, find?_eq_events_iff.mpr rfl]
  have opens := @get_events network broker scope query asks
  rcases reads with rfl | rfl
  · simp only [if_true, opens, streamed]
    cases network.subscribe broker scope <;> rfl
  · simp only [String.reduceEq, if_false, if_true, Logged.value_bind, opens, streamed]
    cases network.subscribe broker scope <;> rfl

theorem respond_other {target : Target}
    (other : (if target.path = Utf8.encode "/events" ∧ (method = "GET" ∨ method = "HEAD") then
      scopeOf? target.query else none) = none) :
    ∃ response, (respond network broker method target).value = (network, .plain response) := by
  unfold respond
  split
  · split
    · exact ⟨_, rfl⟩
    · rename_i endpoint found
      have plain (reads : method = "GET" ∨ method = "HEAD") :
          ∃ response, (get network broker endpoint target.query).value
            = (network, .plain response) := by
        by_cases events : endpoint = .events
        · subst events
          rw [if_pos ⟨find?_eq_events_iff.mp found, reads⟩] at other
          exact ⟨_, get_repeated other⟩
        · exact get_other events target.query
      split
      · rename_i isGet
        exact plain (.inl isGet)
      split
      · rename_i isHead
        obtain ⟨response, same⟩ := plain (.inr isHead)
        rw [Logged.value_bind, same]
        exact ⟨_, withoutBody_plain response⟩
      · exact ⟨_, rfl⟩
  · exact ⟨_, rfl⟩

/-- A request for events makes a subscription, unless the queue of one would be too long. -/
theorem handle_of_asked (network : Network) (broker : Nat)
    (asked : asked? method target = some scope) :
    ∃ answered, handle network broker method target = .ok answered ∧
      answered.value = streamed network broker method scope := by
  unfold asked? at asked
  split at asked
  · rename_i found named read
    split at asked
    · rename_i events
      refine ⟨respond network broker method found, ?_, ?_⟩
      · simp only [handle, named, read, bind, Except.bind, pure, Except.pure]
      obtain ⟨path, query⟩ := found
      obtain ⟨rfl, reads⟩ := events
      exact respond_events asked reads
    · contradiction
  · contradiction

/-- Every other request is refused, or answered in full without any change. -/
theorem handle_of_not_asked (other : asked? method target = none) :
    (∃ fault, handle network broker method target = .error fault) ∨
      ∃ answered response, handle network broker method target = .ok answered ∧
        answered.value = (network, .plain response) := by
  unfold asked? at other
  cases named : checkMethod method with
  | error fault =>
    exact .inl ⟨fault, by simp only [handle, named, bind, Except.bind]⟩
  | ok =>
    cases read : Target.ofBytes (Utf8.encode target) with
    | error fault =>
      exact .inl ⟨fault, by simp only [handle, named, read, bind, Except.bind]⟩
    | ok found =>
      simp only [named, read] at other
      obtain ⟨response, same⟩ := @respond_other network broker method found other
      refine .inr ⟨_, response, ?_, same⟩
      simp only [handle, named, read, bind, Except.bind, pure, Except.pure]

/-! ## Targets -/

/-- A target that asks for the events of a scope: the scope is encoded in its query, or there is no
such parameter and the scope is empty. -/
inductive Asks (target : String) : String → Prop
  | scope {s : String} {q : Bytes} : Utf8.encode target = Utf8.encode "/events?scope=" ++ q →
      FormText (Utf8.encode s) q → Asks target s
  | everything {found : Target} : Target.ofBytes (Utf8.encode target) = .ok found →
      found.path = Utf8.encode "/events" → (∀ pair ∈ formPairs found.query, pair.1 ≠ "scope") →
      Asks target ""

theorem scopeOf?_single {s : String} {q : Bytes} (text : FormText (Utf8.encode s) q) :
    scopeOf? (Utf8.encode "scope=" ++ q) = some s := by
  have name : Utf8.encode "scope=" = Utf8.encode "scope" ++ [0x3D] := rfl
  have read : formDecode (Utf8.encode "scope") = "scope" := by
    refine FormText.formDecode ?_
    iterate 5 refine .plain (by decide) ?_
    exact .nil
  rw [name, List.append_assoc, List.singleton_append, scopeOf?,
    formPairs_single (by decide) (by decide) text.not_mem.1, read, text.formDecode]
  rfl

/-- A target is cut at the first question mark, if no number sign stands in it. -/
theorem pathAndQuery_cut {path query : Bytes} {found : Target} (some : path ≠ [])
    (noMark : ∀ b ∈ path, b ≠ 0x3F ∧ b ≠ 0x23) (noFragment : 0x23 ∉ query)
    (read : pathAndQuery (path ++ 0x3F :: query) = .ok found) : found = ⟨path, query⟩ := by
  have kept : ∀ b ∈ path, (b != 0x3F && b != 0x23) = true := by
    intro b member
    simpa using noMark b member
  have front : (path ++ 0x3F :: query).takeWhile (fun b => b != 0x3F && b != 0x23) = path := by
    rw [List.takeWhile_append_of_pos kept]
    simp
  have whole : query.takeWhile (· != 0x23) = query := by
    refine List.takeWhile_eq_self_iff.mpr fun b member => ?_
    rw [bne_iff_ne]
    rintro rfl
    exact noFragment member
  have notEmpty : path.isEmpty = false := by simpa using some
  simp only [pathAndQuery, front, List.drop_left, whole, notEmpty, Bool.false_eq_true,
    if_false] at read
  split at read
  · contradiction
  · cases read
    rfl

theorem ofBytes_events {q : Bytes} {found : Target} (noFragment : 0x23 ∉ q)
    (read : Target.ofBytes (Utf8.encode "/events?scope=" ++ q) = .ok found) :
    found = ⟨Utf8.encode "/events", Utf8.encode "scope=" ++ q⟩ := by
  have parts : Utf8.encode "/events?scope=" ++ q
      = Utf8.encode "/events" ++ 0x3F :: (Utf8.encode "scope=" ++ q) := rfl
  have slash : Utf8.encode "/events" ++ 0x3F :: (Utf8.encode "scope=" ++ q)
      = 0x2F :: 0x65 :: (Utf8.encode "vents" ++ 0x3F :: (Utf8.encode "scope=" ++ q)) := rfl
  have noFragment' : 0x23 ∉ Utf8.encode "scope=" ++ q := by
    rw [List.mem_append, not_or]
    exact ⟨by decide, noFragment⟩
  rw [parts, slash] at read
  simp only [Target.ofBytes] at read
  split at read
  · contradiction
  · rw [← slash] at read
    have noMark : (Utf8.encode "/events").all (fun b => b != 0x3F && b != 0x23) = true := rfl
    exact pathAndQuery_cut (by decide) (by simpa using noMark) noFragment' read

/-- A request that gets through asks for the scope that its target names. -/
theorem Asks.asked (asks : Asks target scope) (named : checkMethod method = .ok ())
    (reads : method = "GET" ∨ method = "HEAD") {found : Target}
    (read : Target.ofBytes (Utf8.encode target) = .ok found) :
    asked? method target = some scope := by
  cases asks with
  | scope same text =>
    have cut := ofBytes_events text.not_mem.2 (same ▸ read)
    simp only [asked?, named, read, cut, true_and, if_pos reads]
    exact scopeOf?_single text
  | everything read' path other =>
    cases read.symm.trans read'
    have nothing : (formPairs found.query).filter (·.1 = "scope") = [] := by
      refine List.filter_eq_nil_iff.mpr fun pair member => ?_
      simpa using other pair member
    simp only [asked?, named, read, path, true_and, if_pos reads, scopeOf?, nothing]

end Fanout.Http
