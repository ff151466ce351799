import Mathlib.Data.List.Nodup
import SwitchDialects.OrderedMap

/-!
# Maps by their keys and records

A map is determined by its keys in order and the record of each key, so two maps are compared
without looking at their entries. Inserting texts one by one into a list without repetitions keeps
the first occurrence of each, and changes nothing once all of them are there.
-/

namespace SwitchDialects

theorem mem_foldl_appendNew {list ts : List Text} {t : Text} :
    t ∈ ts.foldl appendNew list ↔ t ∈ list ∨ t ∈ ts := by
  induction ts generalizing list with
  | nil => simp
  | cons u ts ih => rw [List.foldl_cons, ih, mem_appendNew, List.mem_cons, or_assoc]

theorem nodup_foldl_appendNew {list : List Text} (h : list.Nodup) (ts : List Text) :
    (ts.foldl appendNew list).Nodup := by
  induction ts generalizing list with
  | nil => exact h
  | cons t ts ih => exact ih (nodup_appendNew h t)

theorem foldl_appendNew_of_subset {list ts : List Text} (h : ∀ t ∈ ts, t ∈ list) :
    ts.foldl appendNew list = list := by
  induction ts with
  | nil => rfl
  | cons t ts ih =>
    rw [List.foldl_cons, appendNew_of_mem (h t (by simp))]
    exact ih fun u hu => h u (by simp [hu])

/-- Texts that are new and distinct are appended as they are. -/
theorem foldl_appendNew_of_nodup {list ts : List Text} (h : (list ++ ts).Nodup) :
    ts.foldl appendNew list = list ++ ts := by
  induction ts generalizing list with
  | nil => simp
  | cons t ts ih =>
    have hnew : t ∉ list := by
      intro ht
      exact (List.nodup_append.mp h).2.2 t ht t (by simp) rfl
    have happ : appendNew list t = list ++ [t] := by simp [appendNew, hnew]
    rw [List.foldl_cons, happ, ih (by simpa using h), List.append_assoc]
    rfl

namespace OrderedSet

theorem toList_insertAll (set : OrderedSet) (members : List Text) :
    (set.insertAll members).toList = members.foldl appendNew set.toList := by
  rw [insertAll]
  induction members generalizing set with
  | nil => rfl
  | cons t members ih => rw [List.foldl_cons, ih]; rfl

/-- A set is what inserting its members in order gives. -/
theorem insertAll_empty_toList (set : OrderedSet) : empty.insertAll set.toList = set := by
  apply OrderedSet.ext
  rw [toList_insertAll]
  exact foldl_appendNew_of_nodup set.distinct

theorem mem_insertAll {set : OrderedSet} {members : List Text} {t : Text} :
    t ∈ set.insertAll members ↔ t ∈ set ∨ t ∈ members := by
  rw [mem_def, toList_insertAll, mem_foldl_appendNew, mem_def]

end OrderedSet

namespace OrderedMap

universe u

variable {α : Type u}

theorem nodup_keys (map : OrderedMap α) : map.keys.Nodup := map.distinct

theorem get?_isSome_iff {map : OrderedMap α} {key : Text} :
    (map.get? key).isSome = true ↔ key ∈ map.keys := contains_iff

theorem get?_eq_none_iff {map : OrderedMap α} {key : Text} :
    map.get? key = none ↔ key ∉ map.keys := by
  rw [← get?_isSome_iff, Option.not_isSome_iff_eq_none]

theorem exists_get?_of_mem {map : OrderedMap α} {key : Text} (h : key ∈ map.keys) :
    ∃ record, map.get? key = some record :=
  Option.isSome_iff_exists.mp (get?_isSome_iff.mpr h)

theorem mem_keys_of_get? {map : OrderedMap α} {key : Text} {record : α}
    (h : map.get? key = some record) : key ∈ map.keys :=
  get?_isSome_iff.mp (by rw [h]; rfl)

/-- The entries are the keys in order, each with its record. -/
theorem entries_eq (map : OrderedMap α) :
    map.entries = map.keys.filterMap fun key => (map.get? key).map fun record => (key, record) := by
  obtain ⟨entries, distinct⟩ := map
  simp only [keys, get?]
  induction entries with
  | nil => rfl
  | cons entry rest ih =>
    obtain ⟨k, record⟩ := entry
    obtain ⟨hk, hrest⟩ := List.nodup_cons.mp distinct
    have hlookup : ∀ key ∈ rest.map Prod.fst,
        ((k, record) :: rest).lookup key = rest.lookup key := by
      intro key hkey
      have hb : (key == k) = false := beq_false_of_ne fun e => hk (e ▸ hkey)
      simp [List.lookup_cons, hb]
    have hcongr : ∀ key ∈ rest.map Prod.fst,
        (((k, record) :: rest).lookup key).map (fun r => (key, r)) =
          (rest.lookup key).map fun r => (key, r) := by
      intro key hkey
      rw [hlookup key hkey]
    rw [List.map_cons, List.filterMap_cons, List.filterMap_congr hcongr, ← ih hrest]
    simp

/-- Maps with the same keys in the same order and the same records are equal. -/
theorem ext_get? {a b : OrderedMap α} (hkeys : a.keys = b.keys)
    (hget : ∀ key ∈ a.keys, a.get? key = b.get? key) : a = b := by
  apply OrderedMap.ext
  rw [entries_eq a, entries_eq b, ← hkeys]
  exact List.filterMap_congr fun key hkey => by rw [hget key hkey]

/-- Changes of one record may be made at once. -/
theorem modify_modify (map : OrderedMap α) (key : Text) (change next : α → α) :
    (map.modify key change).modify key next =
      map.modify key fun record => next (change record) := by
  refine ext_get? (by simp) fun j _ => ?_
  rw [get?_modify, get?_modify, get?_modify]
  by_cases hj : j = key
  · simp [hj, Function.comp_def]
  · simp [hj]

theorem modify_id (map : OrderedMap α) (key : Text) :
    (map.modify key fun record => record) = map := by
  refine ext_get? (by simp) fun j _ => ?_
  rw [get?_modify]
  by_cases hj : j = key <;> simp [hj]

theorem mem_entries_iff {map : OrderedMap α} {key : Text} {record : α} :
    (key, record) ∈ map.entries ↔ map.get? key = some record := by
  rw [entries_eq, List.mem_filterMap]
  constructor
  · rintro ⟨k, _, hk⟩
    obtain ⟨r, hr, he⟩ := Option.map_eq_some_iff.mp hk
    obtain ⟨rfl, rfl⟩ := Prod.mk.inj he
    exact hr
  · intro h
    exact ⟨key, mem_keys_of_get? h, by rw [h]; rfl⟩

theorem mem_values_iff {map : OrderedMap α} {record : α} :
    record ∈ map.values ↔ ∃ key, map.get? key = some record := by
  rw [values, List.mem_map]
  constructor
  · rintro ⟨⟨key, r⟩, hmem, rfl⟩
    exact ⟨key, mem_entries_iff.mp hmem⟩
  · rintro ⟨key, h⟩
    exact ⟨(key, record), mem_entries_iff.mpr h, rfl⟩

theorem values_mapValues (map : OrderedMap α) (change : α → α) :
    (map.mapValues change).values = map.values.map change := by
  simp [values, mapValues, Function.comp_def]

/-- Where every record bears its key, the keys are read off the records. -/
theorem map_values_eq_keys {map : OrderedMap α} {f : α → Text}
    (h : ∀ key record, map.get? key = some record → f record = key) :
    map.values.map f = map.keys := by
  rw [values, keys, List.map_map]
  exact List.map_congr_left fun entry hmem => h entry.1 entry.2 (mem_entries_iff.mp hmem)

/-- Records that bear the same key are the same. -/
theorem eq_of_key_eq {map : OrderedMap α} {f : α → Text}
    (h : ∀ key record, map.get? key = some record → f record = key) {a b : α}
    (ha : a ∈ map.values) (hb : b ∈ map.values) (hkey : f a = f b) : a = b := by
  obtain ⟨i, hi⟩ := mem_values_iff.mp ha
  obtain ⟨j, hj⟩ := mem_values_iff.mp hb
  rw [h i a hi, h j b hj] at hkey
  subst hkey
  exact Option.some.inj (hi.symm.trans hj)

theorem nodup_values {map : OrderedMap α} {f : α → Text}
    (h : ∀ key record, map.get? key = some record → f record = key) : map.values.Nodup := by
  apply List.Nodup.of_map f
  rw [map_values_eq_keys h]
  exact map.nodup_keys

/-- The record of a key, or a given one where there is none. -/
theorem getD_upsert (map : OrderedMap α) (key : Text) (new other : α) (change : α → α) (j : Text)
    (h : j = key → other = new) :
    ((map.upsert key new change).get? j).getD other =
      if j = key then change ((map.get? j).getD other) else (map.get? j).getD other := by
  rw [get?_upsert]
  by_cases hj : j = key
  · simp [hj, h hj]
  · simp [hj]

end OrderedMap

end SwitchDialects
