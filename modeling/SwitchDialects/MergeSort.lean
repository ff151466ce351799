/-!
# Merge sort

A stable merge sort by structural recursion, so that a sorted list is computed inside proofs as
well. Sorting permutes a list, and puts it in order when the comparison is total and transitive.
-/

namespace SwitchDialects.MergeSort

universe u

variable {α : Type u} (le : α → α → Bool)

/-- Merge the list from `x` on into another one, given how the list after `x` is merged. -/
def mergeFrom (x : α) (xs : List α) (mergeRest : List α → List α) : List α → List α
  | [] => x :: xs
  | y :: ys => if le x y then x :: mergeRest (y :: ys) else y :: mergeFrom x xs mergeRest ys

/-- Merge two sorted lists; of two equal elements the one of the first list goes first. -/
def merge : List α → List α → List α
  | [], ys => ys
  | x :: xs, ys => mergeFrom le x xs (merge xs) ys

/-- Sort by halves, at most the given number of times in a row. -/
def sortWithin : (halvings : Nat) → List α → List α
  | 0, list => list
  | halvings + 1, list =>
    if list.length ≤ 1 then list
    else
      merge le (sortWithin halvings (list.take (list.length / 2)))
        (sortWithin halvings (list.drop (list.length / 2)))

/-- A list in order; elements that compare equal stay in place. -/
def sort (list : List α) : List α := sortWithin le list.length list

variable {le}

theorem merge_perm (xs ys : List α) : (merge le xs ys).Perm (xs ++ ys) := by
  induction xs generalizing ys with
  | nil => exact .refl ys
  | cons x xs ih =>
    rw [merge]
    induction ys with
    | nil => simp [mergeFrom]
    | cons y ys ihy =>
      rw [mergeFrom]
      split
      · exact (ih (y :: ys)).cons x
      · exact (ihy.cons y).trans List.perm_middle.symm

/-- Merging keeps order. -/
theorem pairwise_merge (trans : ∀ a b c : α, le a b → le b c → le a c)
    (total : ∀ a b : α, le a b || le b a) {xs ys : List α}
    (hx : xs.Pairwise (le · ·)) (hy : ys.Pairwise (le · ·)) :
    (merge le xs ys).Pairwise (le · ·) := by
  induction xs generalizing ys with
  | nil => exact hy
  | cons x xs ih =>
    obtain ⟨below, hx⟩ := List.pairwise_cons.mp hx
    rw [merge]
    induction ys with
    | nil => exact List.pairwise_cons.mpr ⟨below, hx⟩
    | cons y ys ihy =>
      obtain ⟨belowY, hy'⟩ := List.pairwise_cons.mp hy
      rw [mergeFrom]
      split
      case isTrue hxy =>
        refine List.pairwise_cons.mpr ⟨fun z hz => ?_, ih hx hy⟩
        -- what follows `x` comes from its own list, or from the other one, which `y` heads
        rcases List.mem_append.mp ((merge_perm xs (y :: ys)).mem_iff.mp hz) with hz | hz
        · exact below z hz
        · rcases List.mem_cons.mp hz with rfl | hz
          · exact hxy
          · exact trans x y z hxy (belowY z hz)
      case isFalse hxy =>
        have hyx : le y x := by simpa [hxy] using total x y
        refine List.pairwise_cons.mpr ⟨fun z hz => ?_, ihy hy'⟩
        have hz : z ∈ (x :: xs) ++ ys := (merge_perm (x :: xs) ys).mem_iff.mp hz
        rcases List.mem_append.mp hz with hz | hz
        · rcases List.mem_cons.mp hz with rfl | hz
          · exact hyx
          · exact trans y x z hyx (below z hz)
        · exact belowY z hz

theorem sortWithin_perm (halvings : Nat) (list : List α) :
    (sortWithin le halvings list).Perm list := by
  induction halvings generalizing list with
  | zero => exact .refl list
  | succ halvings ih =>
    rw [sortWithin]
    split
    · exact .refl list
    · refine (merge_perm _ _).trans ?_
      have halves := (ih (list.take (list.length / 2))).append (ih (list.drop (list.length / 2)))
      rwa [List.take_append_drop] at halves

theorem pairwise_sortWithin (trans : ∀ a b c : α, le a b → le b c → le a c)
    (total : ∀ a b : α, le a b || le b a) (halvings : Nat) {list : List α}
    (enough : list.length ≤ halvings + 1) :
    (sortWithin le halvings list).Pairwise (le · ·) := by
  have short {list : List α} (h : list.length ≤ 1) : list.Pairwise (le · ·) := by
    match list, h with
    | [], _ => exact .nil
    | [a], _ => exact List.pairwise_singleton _ a
  induction halvings generalizing list with
  | zero => exact short enough
  | succ halvings ih =>
    rw [sortWithin]
    split
    case isTrue h => exact short h
    case isFalse h =>
      apply pairwise_merge trans total
      · exact ih (by rw [List.length_take]; omega)
      · exact ih (by rw [List.length_drop]; omega)

/-- Sorting keeps every element, and only those. -/
theorem sort_perm (list : List α) : (sort le list).Perm list := sortWithin_perm _ list

/-- A sorted list is in order throughout. -/
theorem pairwise_sort (trans : ∀ a b c : α, le a b → le b c → le a c)
    (total : ∀ a b : α, le a b || le b a) (list : List α) :
    (sort le list).Pairwise (le · ·) :=
  pairwise_sortWithin trans total _ (Nat.le_succ _)

end SwitchDialects.MergeSort
