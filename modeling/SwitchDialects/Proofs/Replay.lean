import Mathlib.Data.List.Basic
import Mathlib.Data.List.Induction

/-!
# What a replay leaves

A record is what a list of statements makes of a new one. Three kinds of field are told apart: one
that a statement overwrites holds the last value written, one that is written only while empty holds
the first, and a collection holds all that any statement added.
-/

namespace SwitchDialects.Replay

universe u v w

variable {σ : Type u} {α : Type v} {β : Type w} {step : σ → α → σ}

theorem foldl_overwrite {f : σ → Option β} {g : α → Option β} {as : List α}
    (h : ∀ s, ∀ a ∈ as, f (step s a) = (g a).or (f s)) (s : σ) :
    f (as.foldl step s) = (as.filterMap g).getLast?.or (f s) := by
  induction as using List.reverseRecOn with
  | nil => rfl
  | append_singleton as a ih =>
    rw [List.foldl_concat, h _ a (by simp), ih fun t b hb => h t b (by simp [hb]),
      List.filterMap_append]
    cases ha : g a with
    | none => simp [ha]
    | some value => simp [ha]

/-- A field that some of the statements overwrite holds what the last of them writes. -/
theorem foldl_assign {f : σ → β} {writes : α → Bool} {value : α → β}
    (h : ∀ s a, f (step s a) = if writes a then value a else f s) (s : σ) (as : List α) :
    f (as.foldl step s) = ((as.filter writes).getLast?.map value).getD (f s) := by
  induction as using List.reverseRecOn with
  | nil => rfl
  | append_singleton as a ih =>
    rw [List.foldl_concat, h, ih, List.filter_append]
    by_cases ha : writes a = true
    · rw [if_pos ha, List.filter_cons_of_pos ha]
      simp
    · rw [if_neg ha, List.filter_cons_of_neg ha]
      simp

/-- What comes last of more comes last of fewer, if it is among these. -/
theorem getLast?_filter_of_imp {p q : α → Bool} (himp : ∀ a, p a = true → q a = true) {as : List α}
    {a : α} (hlast : (as.filter q).getLast? = some a) (ha : p a = true) :
    (as.filter p).getLast? = some a := by
  have hfewer : (as.filter q).filter p = as.filter p := by
    rw [List.filter_filter]
    refine List.filter_congr fun b _ => ?_
    cases hb : p b with
    | false => rfl
    | true => simp [himp b hb]
  obtain ⟨before, hbefore⟩ := List.getLast?_eq_some_iff.mp hlast
  rw [← hfewer, hbefore, List.filter_append, List.filter_cons_of_pos ha]
  simp

/-- What is read off some of the entries is not changed by leaving out others. -/
theorem filterMap_filter_of_imp {p : α → Bool} {f : α → Option β}
    (himp : ∀ a, (f a).isSome = true → p a = true) (as : List α) :
    (as.filter p).filterMap f = as.filterMap f := by
  rw [List.filterMap_filter]
  refine List.filterMap_congr fun a _ => ?_
  by_cases ha : p a = true
  · rw [if_pos ha]
  · rw [if_neg ha, Option.not_isSome_iff_eq_none.mp fun hsome => ha (himp a hsome)]

theorem foldl_keepFirst {f : σ → Option β} {g : α → Option β}
    (h : ∀ s a, f (step s a) = (f s).or (g a)) (s : σ) (as : List α) :
    f (as.foldl step s) = (f s).or (as.filterMap g).head? := by
  induction as generalizing s with
  | nil => simp
  | cons a as ih =>
    rw [List.foldl_cons, ih, h, Option.or_assoc]
    cases ha : g a with
    | none => simp [ha]
    | some value => simp [ha]

theorem foldl_collect {P : σ → Prop} {adds : α → Prop}
    (h : ∀ s a, P (step s a) ↔ P s ∨ adds a) (s : σ) (as : List α) :
    P (as.foldl step s) ↔ P s ∨ ∃ a ∈ as, adds a := by
  induction as generalizing s with
  | nil => simp
  | cons a as ih => rw [List.foldl_cons, ih, h, or_assoc]; simp

theorem foldl_append {f : σ → List β} {g : α → List β} (h : ∀ s a, f (step s a) = f s ++ g a)
    (s : σ) (as : List α) : f (as.foldl step s) = f s ++ as.flatMap g := by
  induction as generalizing s with
  | nil => simp
  | cons a as ih => rw [List.foldl_cons, ih, h, List.flatMap_cons, List.append_assoc]

theorem foldl_unchanged {f : σ → β} {as : List α} (h : ∀ s, ∀ a ∈ as, f (step s a) = f s) (s : σ) :
    f (as.foldl step s) = f s := by
  induction as generalizing s with
  | nil => rfl
  | cons a as ih =>
    rw [List.foldl_cons, ih fun t b hb => h t b (by simp [hb]), h s a (by simp)]

/-- Where only one of several distinct blocks does anything, all of them do what that one does. -/
theorem foldl_flatMap_of_single {ι : Type u} {block : ι → List α} {items : List ι} {x : ι}
    (hx : x ∈ items) (distinct : items.Nodup)
    (others : ∀ y ∈ items, y ≠ x → ∀ s, (block y).foldl step s = s) (s : σ) :
    (items.flatMap block).foldl step s = (block x).foldl step s := by
  induction items generalizing s with
  | nil => cases hx
  | cons y items ih =>
    obtain ⟨hy, hrest⟩ := List.nodup_cons.mp distinct
    rw [List.flatMap_cons, List.foldl_append]
    by_cases hxy : y = x
    · subst hxy
      -- the rest is a fold over blocks that do nothing
      generalize (block y).foldl step s = t
      have hnone : ∀ z ∈ items, ∀ s, (block z).foldl step s = s := fun z hz =>
        others z (by simp [hz]) fun e => hy (e ▸ hz)
      clear ih others distinct hrest hx hy
      induction items with
      | nil => rfl
      | cons z items ih =>
        rw [List.flatMap_cons, List.foldl_append, hnone z (by simp),
          ih fun w hw => hnone w (by simp [hw])]
    · have hmem : x ∈ items := (List.mem_cons.mp hx).resolve_left (Ne.symm hxy)
      rw [others y (by simp) hxy, ih hmem hrest fun z hz => others z (by simp [hz])]

/-- Of what several pieces do, the part about one key is what the pieces with this key do. -/
theorem filter_flatMap_of_key {ι : Type u} {κ : Type w} [DecidableEq κ] {piece : ι → List α}
    {key : ι → κ} {keyOf : α → κ} (hkey : ∀ x, ∀ a ∈ piece x, keyOf a = key x) (items : List ι)
    (k : κ) :
    (items.flatMap piece).filter (keyOf · = k) = (items.filter (key · = k)).flatMap piece := by
  induction items with
  | nil => rfl
  | cons x items ih =>
    rw [List.flatMap_cons, List.filter_append, ih]
    by_cases hx : key x = k
    · have hall : (piece x).filter (keyOf · = k) = piece x := by
        refine List.filter_eq_self.mpr fun a ha => ?_
        simp [hkey x a ha, hx]
      rw [hall, List.filter_cons_of_pos (by simpa using hx), List.flatMap_cons]
    · have hnone : (piece x).filter (keyOf · = k) = [] := by
        refine List.filter_eq_nil_iff.mpr fun a ha => ?_
        simp [hkey x a ha, hx]
      rw [hnone, List.filter_cons_of_neg (by simpa using hx), List.nil_append]

/-- A list that holds one value, or none, starts and ends with it. -/
theorem ends_of_mem_iff {list : List α} {value : Option α} (h : ∀ a, a ∈ list ↔ value = some a) :
    list.head? = value ∧ list.getLast? = value := by
  cases value with
  | none =>
    have hnil : list = [] := by
      rw [List.eq_nil_iff_forall_not_mem]
      intro a ha
      cases (h a).mp ha
    simp [hnil]
  | some v =>
    have hne : list ≠ [] := List.ne_nil_of_mem ((h v).mpr rfl)
    constructor
    · obtain ⟨first, hfirst⟩ := Option.isSome_iff_exists.mp (List.isSome_head?.mpr hne)
      rw [hfirst, (h first).mp (List.mem_of_head? hfirst)]
    · obtain ⟨last, hlast⟩ := Option.isSome_iff_exists.mp (List.getLast?_isSome.mpr hne)
      rw [hlast, (h last).mp (List.mem_of_getLast? hlast)]

/-- Two lists that hold the same one value, however often, start and end alike. -/
theorem ends_eq_of_mem_iff {list other : List α} (h : ∀ a, a ∈ list ↔ a ∈ other)
    (unique : ∀ a ∈ list, ∀ b ∈ list, a = b) :
    list.head? = other.head? ∧ list.getLast? = other.getLast? := by
  have hvalue : ∀ a, a ∈ list ↔ list.head? = some a := by
    intro a
    constructor
    · intro ha
      obtain ⟨first, hfirst⟩ :=
        Option.isSome_iff_exists.mp (List.isSome_head?.mpr (List.ne_nil_of_mem ha))
      rw [hfirst, unique a ha first (List.mem_of_head? hfirst)]
    · exact List.mem_of_head?
  have hlist := ends_of_mem_iff hvalue
  have hother := ends_of_mem_iff fun a => (h a).symm.trans (hvalue a)
  exact ⟨hother.1.symm, hlist.2.trans hother.2.symm⟩

/-- What every step keeps holds in the end. -/
theorem foldl_keeps {P : σ → Prop} {as : List α} (h : ∀ s, ∀ a ∈ as, P s → P (step s a)) {s : σ}
    (hs : P s) : P (as.foldl step s) := by
  induction as generalizing s with
  | nil => exact hs
  | cons a as ih => exact ih (fun t b hb => h t b (by simp [hb])) (h s a (by simp) hs)

section

variable {change next : σ → σ}

/-- A change that leaves a field as it is, or writes it without regard to what it held. -/
def Overwrites (change : σ → σ) (f : σ → β) : Prop :=
  (∀ s, f (change s) = f s) ∨ ∃ value, ∀ s, f (change s) = value

theorem Overwrites.comp {f : σ → β} (h : Overwrites change f) (hnext : Overwrites next f) :
    Overwrites (next ∘ change) f := by
  rcases hnext with hkeeps | ⟨value, hwrites⟩
  · rcases h with hfirst | ⟨value, hfirst⟩
    · exact .inl fun s => (hkeeps _).trans (hfirst s)
    · exact .inr ⟨value, fun s => (hkeeps _).trans (hfirst s)⟩
  · exact .inr ⟨value, fun s => hwrites _⟩

theorem Overwrites.foldl {f : σ → β} (h : ∀ a, Overwrites (step · a) f) (as : List α) :
    Overwrites (fun s => as.foldl step s) f := by
  induction as with
  | nil => exact .inl fun _ => rfl
  | cons a as ih => exact (h a).comp ih

theorem Overwrites.again {f : σ → β} (h : Overwrites change f) (s : σ) :
    f (change (change s)) = f (change s) := by
  rcases h with hkeeps | ⟨value, hwrites⟩
  · rw [hkeeps]
  · rw [hwrites, hwrites]

/-- A field that is written only while it is empty holds the same after a second replay. -/
theorem foldl_keepFirst_again {f : σ → Option β} {g : α → Option β}
    (h : ∀ s a, f (step s a) = (f s).or (g a)) (s : σ) (as : List α) :
    f (as.foldl step (as.foldl step s)) = f (as.foldl step s) := by
  rw [foldl_keepFirst h, foldl_keepFirst h, Option.or_assoc, Option.or_self]

/-- A second replay adds nothing to a collection. -/
theorem foldl_collect_again {P : σ → Prop} {adds : α → Prop}
    (h : ∀ s a, P (step s a) ↔ P s ∨ adds a) (s : σ) (as : List α) :
    P (as.foldl step (as.foldl step s)) ↔ P (as.foldl step s) := by
  rw [foldl_collect h, foldl_collect h, or_assoc, or_self]

end

end SwitchDialects.Replay
