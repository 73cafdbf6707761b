/-! Lists by the places of their entries, and numbered entries in order. -/

namespace Fanout

variable {α β : Type}

/-! ## Places -/

/-- A list that is as long has an entry wherever the other one has one. -/
theorem exists_getElem? {xs : List α} {ys : List β} (length : xs.length ≤ ys.length) {i : Nat}
    {x : α} (here : xs[i]? = some x) : ∃ y, ys[i]? = some y := by
  have inside := (List.getElem?_eq_some_iff.mp here).1
  exact ⟨_, List.getElem?_eq_getElem (Nat.lt_of_lt_of_le inside length)⟩

theorem getElem?_set_cases {xs : List α} {x y : α} {i j : Nat}
    (here : (xs.set i x)[j]? = some y) : (j = i ∧ y = x) ∨ (j ≠ i ∧ xs[j]? = some y) := by
  rw [List.getElem?_set] at here
  split at here
  · rename_i same
    split at here
    · cases here
      exact .inl ⟨same.symm, rfl⟩
    · contradiction
  · rename_i other
    exact .inr ⟨Ne.symm other, here⟩

theorem getElem?_snoc_cases {xs : List α} {x y : α} {j : Nat}
    (here : (xs ++ [x])[j]? = some y) : xs[j]? = some y ∨ (j = xs.length ∧ y = x) := by
  rw [List.getElem?_append] at here
  split at here
  · exact .inl here
  · rename_i beyond
    obtain ⟨inside, same⟩ := List.getElem?_eq_some_iff.mp here
    rw [List.length_singleton] at inside
    exact .inr ⟨by omega, by simpa using same.symm⟩

theorem getElem?_modify_cases {xs : List α} {f : α → α} {i j : Nat} {y : α}
    (here : (xs.modify i f)[j]? = some y) :
    ∃ x, xs[j]? = some x ∧ y = if i = j then f x else x := by
  rw [List.getElem?_modify, Option.map_eq_map, Option.map_eq_some_iff] at here
  obtain ⟨x, before, same⟩ := here
  exact ⟨x, before, same.symm⟩

theorem modify_of_some {xs : List α} {i : Nat} {x : α} (here : xs[i]? = some x) (f : α → α) :
    xs.modify i f = xs.set i (f x) := by
  apply List.ext_getElem?
  intro j
  rw [List.getElem?_modify, List.getElem?_set]
  by_cases same : i = j
  · subst same
    obtain ⟨inside, rfl⟩ := List.getElem?_eq_some_iff.mp here
    simp [inside]
  · simp [same]

theorem modify_snoc (xs : List α) (x : α) (f : α → α) :
    (xs ++ [x]).modify xs.length f = xs ++ [f x] := by
  rw [modify_of_some (List.getElem?_concat_length ..)]
  simp

/-- A list is what is found at its places. -/
theorem filterMap_range (xs : List α) : (List.range xs.length).filterMap (xs[·]?) = xs := by
  induction xs with
  | nil => rfl
  | cons x xs same =>
    rw [List.length_cons, List.range_succ_eq_map, List.filterMap_cons, List.filterMap_map]
    exact congrArg (x :: ·) same

/-! ## The front of a list -/

theorem takeWhile_of_all {p : α → Bool} {xs : List α} (all : xs.all p = true) :
    xs.takeWhile p = xs := by
  induction xs with
  | nil => rfl
  | cons x xs rest =>
    rw [List.all_cons, Bool.and_eq_true] at all
    rw [List.takeWhile_cons_of_pos all.1, rest all.2]

theorem takeWhile_concat (p : α → Bool) (xs : List α) (x : α) :
    (xs ++ [x]).takeWhile p = xs.takeWhile p ++ if xs.all p && p x then [x] else [] := by
  induction xs with
  | nil => cases holds : p x <;> simp [holds]
  | cons y xs rest =>
    rw [List.cons_append, List.all_cons]
    cases holds : p y with
    | true => simp [holds, rest]
    | false => simp [holds]

/-! ## Numbers in order -/

theorem pairwise_snoc {numbers : List Nat} {n : Nat} :
    (numbers ++ [n]).Pairwise (· < ·) ↔ numbers.Pairwise (· < ·) ∧ ∀ m ∈ numbers, m < n := by
  simp [List.pairwise_append]

theorem snoc_succ {numbers : List Nat} {n : Nat} (ordered : (numbers ++ [n]).Pairwise (· < ·)) :
    (numbers ++ [n] ++ [n + 1]).Pairwise (· < ·) := by
  rw [pairwise_snoc]
  refine ⟨ordered, ?_⟩
  intro m member
  rcases List.mem_append.mp member with before | last
  · exact Nat.lt_succ_of_lt ((pairwise_snoc.mp ordered).2 m before)
  · rw [List.mem_singleton.mp last]
    exact Nat.lt_succ_self n

/-- Each number stands for one entry. -/
theorem filter_of_ordered {offers : List (Nat × α)} {n : Nat} {x : α}
    (ordered : (offers.map (·.1)).Pairwise (· < ·)) (member : (n, x) ∈ offers) :
    offers.filter (·.1 = n) = [(n, x)] := by
  induction offers with
  | nil => contradiction
  | cons offer offers alone =>
    rw [List.map_cons, List.pairwise_cons] at ordered
    have above (later : Nat × α) (member : later ∈ offers) : offer.1 < later.1 :=
      ordered.1 later.1 (List.mem_map_of_mem member)
    rcases List.mem_cons.mp member with rfl | member
    · rw [List.filter_cons_of_pos (by simp), List.filter_eq_nil_iff.mpr]
      intro later member
      simpa using Nat.ne_of_gt (above later member)
    · rw [List.filter_cons_of_neg, alone ordered.2 member]
      simpa using Nat.ne_of_lt (above _ member)

end Fanout
