import SwitchDialects.Proofs.OrderedMap
import SwitchDialects.Text.Number

/-!
# What sorting determines

The order of identifiers is total and no two of them are tied, so records in order are determined by
the identifiers alone: it does not matter in which order the records were created, nor by which of
several statements. A change of the records that keeps their identifiers keeps their places, and a
set of identifiers is the members of exactly one list in which each stands before the next.
-/

namespace SwitchDialects

namespace MergeSort

universe u v

variable {α : Type u} {β : Type v} {le : α → α → Bool} {leOf : β → β → Bool} {change : α → β}

/-- Merging does not see a change that keeps every comparison. -/
theorem map_merge (same : ∀ a b, leOf (change a) (change b) = le a b) (xs ys : List α) :
    (merge le xs ys).map change = merge leOf (xs.map change) (ys.map change) := by
  induction xs generalizing ys with
  | nil => rfl
  | cons x xs ih =>
    rw [List.map_cons, merge, merge]
    induction ys with
    | nil => rfl
    | cons y ys ihy =>
      rw [List.map_cons, mergeFrom, mergeFrom, same]
      split
      · rw [List.map_cons, ih, List.map_cons]
      · rw [List.map_cons, ihy]

theorem map_sort (same : ∀ a b, leOf (change a) (change b) = le a b) (list : List α) :
    (sort le list).map change = sort leOf (list.map change) := by
  have hwithin (halvings : Nat) (list : List α) : (sortWithin le halvings list).map change =
      sortWithin leOf halvings (list.map change) := by
    induction halvings generalizing list with
    | zero => rfl
    | succ halvings ih =>
      rw [sortWithin, sortWithin, List.length_map]
      split
      · rfl
      · rw [map_merge same, ih, ih, List.map_take, List.map_drop]
  rw [sort, sort, List.length_map, hwithin]

end MergeSort

namespace NumericOrder

/-- Records that keep their identifiers are sorted as before. -/
theorem map_sortBy {α : Type} {id : α → Text} {change : α → α} (h : ∀ a, id (change a) = id a)
    (as : List α) : (sortBy id as).map change = sortBy id (as.map change) :=
  MergeSort.map_sort (fun a b => by rw [h, h]) as

/-- Permuted identifiers are listed in the same way. -/
theorem map_sortBy_eq {α : Type} {id : α → Text} {as bs : List α}
    (h : (as.map id).Perm (bs.map id)) : (sortBy id as).map id = (sortBy id bs).map id := by
  have hperm : ((sortBy id as).map id).Perm ((sortBy id bs).map id) :=
    ((sortBy_perm id as).map id).trans (h.trans ((sortBy_perm id bs).map id).symm)
  have hordered (records : List α) :
      ((sortBy id records).map id).Pairwise fun a b => le a b = true :=
    List.pairwise_map.mpr (pairwise_sortBy id records)
  exact hperm.eq_of_pairwise (fun _ _ _ _ => le_antisymm) (hordered as) (hordered bs)

theorem flatMap_eq_of_map_eq {α β : Type} {id : α → Text} {f g : α → List β} {as bs : List α}
    (h : as.map id = bs.map id) (same : ∀ a ∈ as, ∀ b ∈ bs, id a = id b → f a = g b) :
    as.flatMap f = bs.flatMap g := by
  induction as generalizing bs with
  | nil =>
    cases bs with
    | nil => rfl
    | cons b bs => simp at h
  | cons a as ih =>
    cases bs with
    | nil => simp at h
    | cons b bs =>
      obtain ⟨hid, hrest⟩ := List.cons.inj h
      rw [List.flatMap_cons, List.flatMap_cons, same a (by simp) b (by simp) hid,
        ih hrest fun c hc d hd => same c (by simp [hc]) d (by simp [hd])]

/-- What is listed for each record is the same for two lists of records that agree by identifier. -/
theorem flatMap_sortBy_eq {α β : Type} {id : α → Text} {f g : α → List β} {as bs : List α}
    (h : (as.map id).Perm (bs.map id)) (same : ∀ a ∈ as, ∀ b ∈ bs, id a = id b → f a = g b) :
    (sortBy id as).flatMap f = (sortBy id bs).flatMap g := by
  apply flatMap_eq_of_map_eq (map_sortBy_eq h)
  intro a ha b hb hid
  exact same a ((sortBy_perm id as).mem_iff.mp ha) b ((sortBy_perm id bs).mem_iff.mp hb) hid

def Before (a b : Text) : Prop := le a b = true ∧ a ≠ b

/-- A list with these members in which each is listed before the next. -/
structure ListsInOrder (members : Text → Prop) (list : List Text) : Prop where
  ordered : list.Pairwise Before
  mem : ∀ t, t ∈ list ↔ members t

variable {members others : Text → Prop} {list other : List Text}

theorem ListsInOrder.nodup (h : ListsInOrder members list) : list.Nodup :=
  h.ordered.imp fun hab => hab.2

/-- Members leave no choice of the list. -/
theorem ListsInOrder.unique (h : ListsInOrder members list) (hother : ListsInOrder members other) :
    list = other := by
  have hperm : list.Perm other := by
    rw [List.perm_ext_iff_of_nodup h.nodup hother.nodup]
    exact fun t => (h.mem t).trans (hother.mem t).symm
  exact hperm.eq_of_pairwise (fun _ _ _ _ hab hba => le_antisymm hab.1 hba.1) h.ordered
    hother.ordered

theorem ListsInOrder.congr (h : ListsInOrder members list) (same : ∀ t, members t ↔ others t) :
    ListsInOrder others list :=
  ⟨h.ordered, fun t => (h.mem t).trans (same t)⟩

theorem listsInOrder_sortBy (h : list.Nodup) :
    ListsInOrder (· ∈ list) (sortBy (fun t => t) list) where
  ordered := by
    have hordered : (sortBy (fun t => t) list).Pairwise fun a b => le a b = true :=
      pairwise_sortBy (fun t => t) list
    exact hordered.and ((sortBy_perm (fun t => t) list).nodup_iff.mpr h)
  mem _ := (sortBy_perm (fun t => t) list).mem_iff

/-- Texts inserted one by one, put in order. -/
theorem listsInOrder_foldl_appendNew (ts : List Text) :
    ListsInOrder (· ∈ ts) (sortBy (fun t => t) (ts.foldl appendNew [])) :=
  (listsInOrder_sortBy (nodup_foldl_appendNew List.nodup_nil ts)).congr fun t => by
    rw [mem_foldl_appendNew, or_iff_right List.not_mem_nil]

/-- A list without repetitions, put in order, depends on its members only. -/
theorem sortBy_foldl_appendNew {as bs : List Text} (h : ∀ t, t ∈ as ↔ t ∈ bs) :
    sortBy (fun t => t) (as.foldl appendNew []) = sortBy (fun t => t) (bs.foldl appendNew []) :=
  ((listsInOrder_foldl_appendNew as).congr h).unique (listsInOrder_foldl_appendNew bs)

end NumericOrder

end SwitchDialects
