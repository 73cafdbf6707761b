import Mathlib.Data.List.Induction
import Fanout.Proofs.Network.Run
import Fanout.Publisher

/-! How publishers come about: as new ones, as clones of others, and as others with one handler
more. Each publisher has the handlers along its own derivation, in their order, whatever is made
later. -/

namespace Fanout

/-- How a publisher is made. Others are named by their places. -/
inductive Making (Handler : Type) where
  | new
  | clone (source : Nat)
  | withHandler (source : Nat) (handler : Handler)
  deriving DecidableEq, Repr

/-- The handlers along the derivation of the publisher that was made at a place. -/
inductive Making.Along {Handler : Type} (makings : List (Making Handler)) :
    Nat → List Handler → Prop where
  | new {place} : makings[place]? = some .new → Along makings place []
  | clone {place source handlers} : makings[place]? = some (.clone source) → source < place →
      Along makings source handlers → Along makings place handlers
  | withHandler {place source handlers handler} :
      makings[place]? = some (.withHandler source handler) → source < place →
      Along makings source handlers → Along makings place (handlers ++ [handler])

namespace Publisher

variable {Handler : Type} {makings : List (Making Handler)} {place : Nat} {handlers : List Handler}

/-- The publisher that is made out of those that were made before, if the one to begin with is
among them. -/
def make? (made : List (Option (Publisher Handler))) : Making Handler → Option (Publisher Handler)
  | .new => some .empty
  | .clone source => made[source]?.join
  | .withHandler source handler => made[source]?.join.map (·.withHandler handler)

/-- What is made, each at its place. -/
def workshop (makings : List (Making Handler)) : List (Option (Publisher Handler)) :=
  makings.foldl (fun made making => made ++ [make? made making]) []

/-- The publisher that was made at a place. -/
def made? (makings : List (Making Handler)) (place : Nat) : Option (Publisher Handler) :=
  (workshop makings)[place]?.join

theorem workshop_concat (makings : List (Making Handler)) (making : Making Handler) :
    workshop (makings ++ [making]) = workshop makings ++ [make? (workshop makings) making] := by
  rw [workshop, List.foldl_append]
  rfl

theorem length_workshop (makings : List (Making Handler)) :
    (workshop makings).length = makings.length := by
  induction makings using List.reverseRecOn with
  | nil => rfl
  | append_singleton makings making same =>
    rw [workshop_concat, List.length_append, List.length_append, same]
    rfl

/-- Nothing that is made later changes a publisher. -/
theorem made?_append (inside : place < makings.length) (more : List (Making Handler)) :
    made? (makings ++ more) place = made? makings place := by
  induction more using List.reverseRecOn with
  | nil => rw [List.append_nil]
  | append_singleton more making same =>
    have inside' : place < (workshop (makings ++ more)).length := by
      rw [length_workshop, List.length_append]
      omega
    rw [← List.append_assoc, made?, workshop_concat, List.getElem?_append_left inside', ← made?,
      same]

/-- A publisher is made out of those before it. -/
theorem made?_making {earlier more : List (Making Handler)} (making : Making Handler) :
    made? (earlier ++ making :: more) earlier.length = make? (workshop earlier) making := by
  rw [List.append_cons, made?_append (by simp), made?, workshop_concat, ← length_workshop,
    List.getElem?_concat_length, Option.join_some]

theorem exists_earlier {making : Making Handler} (here : makings[place]? = some making) :
    ∃ earlier more, makings = earlier ++ making :: more ∧ earlier.length = place := by
  obtain ⟨inside, rfl⟩ := List.getElem?_eq_some_iff.mp here
  refine ⟨makings.take place, makings.drop (place + 1), ?_, by simp [Nat.le_of_lt inside]⟩
  rw [List.getElem_cons_drop, List.take_append_drop]

theorem lt_of_made? {publisher : Publisher Handler} (made : made? makings place = some publisher) :
    place < makings.length := by
  have here := Option.join_eq_some_iff.mp made
  rw [← length_workshop]
  exact (List.getElem?_eq_some_iff.mp here).1

/-- A publisher has the handlers along its derivation. -/
theorem along_of_made? {publisher : Publisher Handler}
    (made : made? makings place = some publisher) :
    Making.Along makings place publisher.handlers := by
  induction place using Nat.strongRecOn generalizing publisher with
  | ind place derived =>
    obtain ⟨making, here⟩ : ∃ making, makings[place]? = some making :=
      ⟨_, List.getElem?_eq_getElem (lt_of_made? made)⟩
    obtain ⟨earlier, more, rfl, rfl⟩ := exists_earlier here
    have origin {source : Nat} {original : Publisher Handler}
        (before : made? earlier source = some original) : source < earlier.length ∧
          Making.Along (earlier ++ making :: more) source original.handlers := by
      have inside := lt_of_made? before
      exact ⟨inside, derived source inside ((made?_append inside _).trans before)⟩
    rw [made?_making] at made
    cases making with
    | new =>
      cases made
      exact .new here
    | clone source =>
      obtain ⟨before, along⟩ := origin made
      exact .clone here before along
    | withHandler source handler =>
      obtain ⟨original, found, rfl⟩ := Option.map_eq_some_iff.mp made
      obtain ⟨before, along⟩ := origin found
      exact .withHandler here before along

/-- To publish is to let each handler's broker publish, one after the other. -/
theorem publish_value (publisher : Publisher Nat) (event : Event Json.Value) (network : Network) :
    (publisher.publish Network.handle event network).value
      = (publisher.handlers.map fun handler => Step.publish handler (event.map .value)).foldl
        Network.step network := by
  obtain ⟨handlers⟩ := publisher
  rw [publish]
  induction handlers generalizing network with
  | nil => rfl
  | cons handler handlers rest =>
    rw [List.foldlM_cons, Logged.value_bind, rest]
    rfl

end Publisher

end Fanout
