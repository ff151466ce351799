import SwitchDialects.Text

/-!
# Sets and maps that remember the order of insertion

The ports of a VLAN are listed in the order in which they were first named. Adding a member that is
already there changes nothing, so the list never holds one twice.

The VLANs and the ports of a network are created by the first statement that names them and keep
that order, too. A map is its list of entries with distinct keys. The view of a map is `get?`
together with `keys`; each operation is described by what it does to these two.
-/

namespace SwitchDialects

/-- Append a text to a list unless the list holds it. -/
def appendNew (list : List Text) (t : Text) : List Text :=
  if t ∈ list then list else list ++ [t]

theorem mem_appendNew {list : List Text} {t u : Text} :
    u ∈ appendNew list t ↔ u ∈ list ∨ u = t := by
  by_cases h : t ∈ list
  · simp only [appendNew, if_pos h]
    exact ⟨Or.inl, fun hu => hu.elim id (· ▸ h)⟩
  · simp [appendNew, h]

theorem nodup_appendNew {list : List Text} (distinct : list.Nodup) (t : Text) :
    (appendNew list t).Nodup := by
  by_cases h : t ∈ list
  · simpa [appendNew, h] using distinct
  · simp only [appendNew, if_neg h, List.nodup_append]
    refine ⟨distinct, by simp, fun a ha b hb => ?_⟩
    rw [List.mem_singleton.mp hb]
    exact fun e => h (e ▸ ha)

theorem appendNew_of_mem {list : List Text} {t : Text} (h : t ∈ list) :
    appendNew list t = list := by
  simp [appendNew, h]

/-- A list of distinct texts in order of insertion. -/
@[ext]
structure OrderedSet where
  toList : List Text
  distinct : toList.Nodup
deriving DecidableEq

namespace OrderedSet

def empty : OrderedSet := ⟨[], List.nodup_nil⟩

instance : Inhabited OrderedSet := ⟨empty⟩

instance : Membership Text OrderedSet := ⟨fun set t => t ∈ set.toList⟩

/-- A new member goes to the end. -/
def insert (set : OrderedSet) (t : Text) : OrderedSet :=
  ⟨appendNew set.toList t, nodup_appendNew set.distinct t⟩

def insertAll (set : OrderedSet) (members : List Text) : OrderedSet :=
  members.foldl insert set

theorem mem_def {set : OrderedSet} {t : Text} : t ∈ set ↔ t ∈ set.toList := Iff.rfl

@[simp] theorem notMem_empty (t : Text) : t ∉ empty := by simp [mem_def, empty]

@[simp] theorem mem_insert {set : OrderedSet} {t u : Text} :
    u ∈ set.insert t ↔ u ∈ set ∨ u = t := mem_appendNew

theorem insert_of_mem {set : OrderedSet} {t : Text} (h : t ∈ set) : set.insert t = set :=
  OrderedSet.ext (appendNew_of_mem h)

end OrderedSet

universe u

/-- Entries with distinct keys, in order of insertion. -/
@[ext]
structure OrderedMap (α : Type u) where
  entries : List (Text × α)
  distinct : (entries.map Prod.fst).Nodup
deriving DecidableEq

namespace OrderedMap

variable {α : Type u}

def empty : OrderedMap α := ⟨[], List.nodup_nil⟩

instance : Inhabited (OrderedMap α) := ⟨empty⟩

def keys (map : OrderedMap α) : List Text := map.entries.map Prod.fst

def values (map : OrderedMap α) : List α := map.entries.map Prod.snd

def size (map : OrderedMap α) : Nat := map.entries.length

def get? (map : OrderedMap α) (key : Text) : Option α := map.entries.lookup key

def contains (map : OrderedMap α) (key : Text) : Bool := (map.get? key).isSome

def modify (map : OrderedMap α) (key : Text) (change : α → α) : OrderedMap α where
  entries := map.entries.map fun (k, record) => (k, if k = key then change record else record)
  distinct := by
    have same : (map.entries.map fun (k, record) =>
        (k, if k = key then change record else record)).map Prod.fst =
        map.entries.map Prod.fst := by simp [Function.comp_def]
    exact same ▸ map.distinct

def mapValues (map : OrderedMap α) (change : α → α) : OrderedMap α where
  entries := map.entries.map fun (k, record) => (k, change record)
  distinct := by
    have same : (map.entries.map fun (k, record) => (k, change record)).map Prod.fst =
        map.entries.map Prod.fst := by simp [Function.comp_def]
    exact same ▸ map.distinct

theorem contains_iff {map : OrderedMap α} {key : Text} :
    map.contains key = true ↔ key ∈ map.keys := by
  simp only [contains, get?, keys]
  induction map.entries with
  | nil => simp
  | cons entry rest ih =>
    obtain ⟨k, record⟩ := entry
    by_cases h : key = k
    · simp [h]
    · have hb : (key == k) = false := by simpa using h
      simp only [List.lookup_cons, hb, List.map_cons, List.mem_cons, h, false_or]
      exact ih

/-- Add a record at the end, unless the key has one already. -/
def insertNew (map : OrderedMap α) (key : Text) (record : α) : OrderedMap α :=
  if h : map.contains key then map
  else
    { entries := map.entries ++ [(key, record)]
      distinct := by
        have absent : key ∉ map.entries.map Prod.fst := fun hk => h (contains_iff.mpr hk)
        rw [List.map_append, List.nodup_append]
        refine ⟨map.distinct, by simp, fun a ha b hb => ?_⟩
        have hkey : b = key := by simpa using hb
        exact fun e => absent (hkey ▸ e ▸ ha) }

/-- Change the record of a key, after adding the given one if the key has none. -/
def upsert (map : OrderedMap α) (key : Text) (new : α) (change : α → α) : OrderedMap α :=
  (map.insertNew key new).modify key change

@[simp] theorem keys_empty : (empty : OrderedMap α).keys = [] := rfl

@[simp] theorem get?_empty (key : Text) : (empty : OrderedMap α).get? key = none := rfl

@[simp] theorem keys_modify (map : OrderedMap α) (key : Text) (change : α → α) :
    (map.modify key change).keys = map.keys := by
  simp [keys, modify, Function.comp_def]

@[simp] theorem keys_mapValues (map : OrderedMap α) (change : α → α) :
    (map.mapValues change).keys = map.keys := by
  simp [keys, mapValues, Function.comp_def]

@[simp] theorem keys_insertNew (map : OrderedMap α) (key : Text) (record : α) :
    (map.insertNew key record).keys = appendNew map.keys key := by
  by_cases h : map.contains key
  · simp [insertNew, h, appendNew, contains_iff.mp h]
  · have absent : key ∉ map.keys := fun hk => h (contains_iff.mpr hk)
    simp only [insertNew, h, appendNew, absent, if_false, dite_false, Bool.false_eq_true]
    simp [keys]

@[simp] theorem keys_upsert (map : OrderedMap α) (key : Text) (new : α) (change : α → α) :
    (map.upsert key new change).keys = appendNew map.keys key := by
  simp [upsert]

theorem get?_modify (map : OrderedMap α) (key : Text) (change : α → α) (j : Text) :
    (map.modify key change).get? j =
      if j = key then (map.get? j).map change else map.get? j := by
  simp only [get?, modify]
  induction map.entries with
  | nil => simp
  | cons entry rest ih =>
    obtain ⟨k, record⟩ := entry
    by_cases hj : j = k
    · subst hj
      by_cases hk : j = key <;> simp [hk]
    · have hb : (j == k) = false := by simpa using hj
      simpa [List.lookup_cons, hb] using ih

theorem get?_mapValues (map : OrderedMap α) (change : α → α) (j : Text) :
    (map.mapValues change).get? j = (map.get? j).map change := by
  simp only [get?, mapValues]
  induction map.entries with
  | nil => simp
  | cons entry rest ih =>
    obtain ⟨k, record⟩ := entry
    by_cases hj : j = k
    · simp [hj]
    · have hb : (j == k) = false := by simpa using hj
      simpa [List.lookup_cons, hb] using ih

theorem get?_insertNew (map : OrderedMap α) (key : Text) (record : α) (j : Text) :
    (map.insertNew key record).get? j =
      if j = key then some ((map.get? j).getD record) else map.get? j := by
  by_cases h : map.contains key
  · by_cases hj : j = key
    · subst hj
      obtain ⟨r, hr⟩ := Option.isSome_iff_exists.mp h
      simp [insertNew, h, hr]
    · simp [insertNew, h, hj]
  · have hnone : map.entries.lookup key = none := Option.not_isSome_iff_eq_none.mp h
    simp only [insertNew, h, dite_false, Bool.false_eq_true, get?]
    rw [List.lookup_append]
    by_cases hj : j = key
    · subst hj
      simp [hnone]
    · have hb : (j == key) = false := by simpa using hj
      simp [hj, List.lookup_cons, hb]

theorem get?_upsert (map : OrderedMap α) (key : Text) (new : α) (change : α → α) (j : Text) :
    (map.upsert key new change).get? j =
      if j = key then some (change ((map.get? j).getD new)) else map.get? j := by
  by_cases h : j = key <;> simp [upsert, get?_modify, get?_insertNew, h]

end OrderedMap

end SwitchDialects
