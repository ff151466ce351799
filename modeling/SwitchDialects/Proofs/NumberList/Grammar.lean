import SwitchDialects.Proofs.NumberList

/-!
# The lists that are accepted

A list is judged element by element, its blanks taken out. The grammar says what an element has to
be, and a fault is one of the three ways to miss it. An element that is not of the grammar has
exactly one fault, and a list is rejected with the fault of the first such element.
-/

namespace SwitchDialects.NumberList

open Text

/-- A non-empty run of the digits from 0 to 9; there may be any number of leading zeros. -/
def IsDigits (t : Text) : Prop := t ≠ [] ∧ ∀ c ∈ t, c.isDigit = true

def IsVlan (n : Nat) : Prop := 1 ≤ n ∧ n ≤ 4094

/-- What an element has to be: the number of a VLAN, or two of them with a hyphen between. -/
inductive IsElement : Text → Prop where
  | single {n : Text} (digits : IsDigits n) (vlan : IsVlan (Decimal.value n)) : IsElement n
  | range {first last : Text} (firstDigits : IsDigits first)
    (firstVlan : IsVlan (Decimal.value first)) (lastDigits : IsDigits last)
    (lastVlan : IsVlan (Decimal.value last)) : IsElement (first ++ '-' :: last)

/-- The sides of an element that has one hyphen or none. -/
inductive Sides : Text → List Text → Prop where
  | single {n : Text} (h : '-' ∉ n) : Sides n [n]
  | range {first last : Text} (hfirst : '-' ∉ first) (hlast : '-' ∉ last) :
    Sides (first ++ '-' :: last) [first, last]

/-- The ways to miss the grammar. What a side holds counts only if there are at most two sides, and
its value only if every side has one. -/
inductive Fault (element : Text) : Rejection → Prop where
  | arity (h : 2 ≤ element.count '-') : Fault element (.arity element)
  | nonNumeric {sides : List Text} (h : Sides element sides) {side : Text} (hside : side ∈ sides)
    (digits : ¬ IsDigits side) : Fault element (.nonNumeric element)
  | outOfRange {sides : List Text} (h : Sides element sides)
    (digits : ∀ side ∈ sides, IsDigits side) {side : Text} (hside : side ∈ sides)
    (vlan : ¬ IsVlan (Decimal.value side)) : Fault element (.outOfRange element)

theorem isNumber_iff {t : Text} : Decimal.isNumber t = true ↔ IsDigits t := by
  simp [Decimal.isNumber, IsDigits]

theorem isVlanNumber_iff {t : Text} : isVlanNumber t = true ↔ IsVlan (Decimal.value t) := by
  rw [isVlanNumber, Bool.and_eq_true, decide_eq_true_eq, decide_eq_true_eq]
  rfl

theorem isVlanId_iff {t : Text} : IsVlanId t ↔ IsDigits t ∧ IsVlan (Decimal.value t) := by
  rw [IsVlanId, isNumber_iff, isVlanNumber_iff]

/-- The sides are what stands between the hyphens. -/
theorem sides_iff {element : Text} {sides : List Text} :
    Sides element sides ↔ element.splitOn '-' = sides ∧ sides.length ≤ 2 := by
  constructor
  · intro h
    cases h with
    | single h => exact ⟨List.splitOn_eq_singleton h, by simp⟩
    | range hfirst hlast =>
      rw [List.splitOn_append_cons_self, List.splitOn_eq_singleton hfirst,
        List.splitOn_eq_singleton hlast]
      exact ⟨rfl, by simp⟩
  · rintro ⟨rfl, hlength⟩
    have hjoin : ['-'].intercalate (element.splitOn '-') = element := List.intercalate_splitOn '-'
    have hfree : ∀ side ∈ element.splitOn '-', '-' ∉ side := fun _ => notMem_of_mem_splitOn
    match hsides : element.splitOn '-' with
    | [] => exact absurd hsides (List.splitOn_ne_nil '-' element)
    | [n] =>
      rw [hsides] at hjoin hfree
      obtain rfl : n = element := by simpa using hjoin
      exact .single (hfree n (by simp))
    | [first, last] =>
      rw [hsides] at hjoin hfree
      obtain rfl : first ++ '-' :: last = element := by simpa [List.intercalate] using hjoin
      exact .range (hfree first (by simp)) (hfree last (by simp))
    | _ :: _ :: _ :: _ =>
      rw [hsides] at hlength
      simp at hlength

theorem notMem_hyphen {t : Text} (h : IsDigits t) : '-' ∉ t := by
  intro hmem
  exact absurd (h.2 '-' hmem) (by decide)

/-- An element is of the grammar when each of its sides is the number of a VLAN. -/
theorem isElement_iff {element : Text} :
    IsElement element ↔ ∃ sides, Sides element sides ∧ ∀ side ∈ sides, IsVlanId side := by
  constructor
  · intro h
    cases h with
    | single digits vlan =>
      refine ⟨_, .single (notMem_hyphen digits), ?_⟩
      simpa using isVlanId_iff.mpr ⟨digits, vlan⟩
    | range firstDigits firstVlan lastDigits lastVlan =>
      refine ⟨_, .range (notMem_hyphen firstDigits) (notMem_hyphen lastDigits), ?_⟩
      simpa using And.intro (isVlanId_iff.mpr ⟨firstDigits, firstVlan⟩)
        (isVlanId_iff.mpr ⟨lastDigits, lastVlan⟩)
  · rintro ⟨sides, hsides, hall⟩
    cases hsides with
    | single h =>
      obtain ⟨digits, vlan⟩ := isVlanId_iff.mp (hall element (by simp))
      exact .single digits vlan
    | @range first last hfirst hlast =>
      obtain ⟨firstDigits, firstVlan⟩ := isVlanId_iff.mp (hall first (by simp))
      obtain ⟨lastDigits, lastVlan⟩ := isVlanId_iff.mp (hall last (by simp))
      exact .range firstDigits firstVlan lastDigits lastVlan

/-- An element has a fault or is of the grammar, and is judged accordingly. -/
theorem rejectElement?_cases (element : Text) :
    (∃ rejection, rejectElement? element = some rejection ∧ Fault element rejection) ∨
      (rejectElement? element = none ∧ IsElement element) := by
  rw [rejectElement?, length_splitOn]
  by_cases harity : 2 < element.count '-' + 1
  · exact .inl ⟨_, if_pos harity, .arity (by omega)⟩
  · have hsides : Sides element (element.splitOn '-') :=
      sides_iff.mpr ⟨rfl, by rw [length_splitOn]; omega⟩
    simp only [if_neg harity]
    by_cases hdigits : ∀ side ∈ element.splitOn '-', IsDigits side
    · have hnumber : (element.splitOn '-').all Decimal.isNumber = true :=
        List.all_eq_true.mpr fun side hside => isNumber_iff.mpr (hdigits side hside)
      by_cases hvlan : ∀ side ∈ element.splitOn '-', IsVlan (Decimal.value side)
      · have hvlans : (element.splitOn '-').all isVlanNumber = true :=
          List.all_eq_true.mpr fun side hside => isVlanNumber_iff.mpr (hvlan side hside)
        refine .inr ⟨by simp [hnumber, hvlans], isElement_iff.mpr ⟨_, hsides, ?_⟩⟩
        exact fun side hside => isVlanId_iff.mpr ⟨hdigits side hside, hvlan side hside⟩
      · push Not at hvlan
        obtain ⟨side, hside, hfar⟩ := hvlan
        have hvlans : (element.splitOn '-').all isVlanNumber = false :=
          List.all_eq_false.mpr ⟨side, hside, fun h => hfar (isVlanNumber_iff.mp h)⟩
        exact .inl ⟨_, by simp [hnumber, hvlans], .outOfRange hsides hdigits hside hfar⟩
    · push Not at hdigits
      obtain ⟨side, hside, hbad⟩ := hdigits
      have hnumber : (element.splitOn '-').all Decimal.isNumber = false :=
        List.all_eq_false.mpr ⟨side, hside, fun h => hbad (isNumber_iff.mp h)⟩
      exact .inl ⟨_, by simp [hnumber], .nonNumeric hsides hside hbad⟩

/-- An element with a fault is not of the grammar. -/
theorem Fault.not_isElement {element : Text} {rejection : Rejection}
    (h : Fault element rejection) : ¬ IsElement element := by
  intro helement
  obtain ⟨sides, hsides, hall⟩ := isElement_iff.mp helement
  obtain ⟨rfl, hlength⟩ := sides_iff.mp hsides
  cases h with
  | arity h =>
    rw [length_splitOn] at hlength
    omega
  | nonNumeric h hside digits =>
    obtain ⟨rfl, _⟩ := sides_iff.mp h
    exact digits (isVlanId_iff.mp (hall _ hside)).1
  | outOfRange h _ hside vlan =>
    obtain ⟨rfl, _⟩ := sides_iff.mp h
    exact vlan (isVlanId_iff.mp (hall _ hside)).2

/-- The conditions of the three faults exclude each other. -/
theorem Fault.unique {element : Text} {rejection other : Rejection}
    (h : Fault element rejection) (h' : Fault element other) : rejection = other := by
  have few {sides : List Text} (hsides : Sides element sides) : ¬ 2 ≤ element.count '-' := by
    obtain ⟨rfl, hlength⟩ := sides_iff.mp hsides
    rw [length_splitOn] at hlength
    omega
  have same {sides sides' : List Text} (hsides : Sides element sides)
      (hsides' : Sides element sides') : sides = sides' :=
    (sides_iff.mp hsides).1.symm.trans (sides_iff.mp hsides').1
  cases h with
  | arity h =>
    cases h' with
    | arity _ => rfl
    | nonNumeric hsides _ _ => exact absurd h (few hsides)
    | outOfRange hsides _ _ _ => exact absurd h (few hsides)
  | nonNumeric hsides hside digits =>
    cases h' with
    | arity h => exact absurd h (few hsides)
    | nonNumeric _ _ _ => rfl
    | outOfRange hsides' digits' _ _ =>
      exact absurd (digits' _ (same hsides hsides' ▸ hside)) digits
  | outOfRange hsides digits _ _ =>
    cases h' with
    | arity h => exact absurd h (few hsides)
    | nonNumeric hsides' hside digits' =>
      exact absurd (digits _ (same hsides' hsides ▸ hside)) digits'
    | outOfRange _ _ _ _ => rfl

theorem rejectElement?_eq_none_iff {element : Text} :
    rejectElement? element = none ↔ IsElement element := by
  rcases rejectElement?_cases element with ⟨rejection, hsome, hfault⟩ | ⟨hnone, helement⟩
  · simp [hsome, hfault.not_isElement]
  · simp [hnone, helement]

theorem rejectElement?_eq_some_iff {element : Text} {rejection : Rejection} :
    rejectElement? element = some rejection ↔ Fault element rejection := by
  rcases rejectElement?_cases element with ⟨found, hsome, hfault⟩ | ⟨hnone, helement⟩
  · rw [hsome, Option.some.injEq]
    exact ⟨fun e => e ▸ hfault, fun h => hfault.unique h⟩
  · have hnot : ¬ Fault element rejection := fun h => h.not_isElement helement
    simp [hnone, hnot]

/-- A list without its blanks is accepted when each of its elements is of the grammar, and is
rejected with the fault of the first that is not. -/
theorem list_judged (list : Text) :
    (reject? list = none ↔
      ∀ element ∈ (list.filter fun c => !isBlank c).splitOn ',', IsElement element) ∧
    ∀ rejection, reject? list = some rejection ↔
      ∃ before element after,
        (list.filter fun c => !isBlank c).splitOn ',' = before ++ element :: after ∧
        (∀ e ∈ before, IsElement e) ∧ ¬ IsElement element ∧ Fault element rejection := by
  have hcompact : (list.filter fun c => !isBlank c) = compact list := rfl
  rw [hcompact]
  constructor
  case left =>
    rw [reject?, List.findSome?_eq_none_iff]
    exact forall₂_congr fun _ _ => rejectElement?_eq_none_iff
  case right =>
    intro rejection
    rw [reject?, List.findSome?_eq_some_iff]
    constructor
    · rintro ⟨before, element, after, hsplit, hfault, hbefore⟩
      have hfault := rejectElement?_eq_some_iff.mp hfault
      exact ⟨before, element, after, hsplit,
        fun e he => rejectElement?_eq_none_iff.mp (hbefore e he), hfault.not_isElement, hfault⟩
    · rintro ⟨before, element, after, hsplit, hbefore, _, hfault⟩
      exact ⟨before, element, after, hsplit, rejectElement?_eq_some_iff.mpr hfault,
        fun e he => rejectElement?_eq_none_iff.mpr (hbefore e he)⟩

end SwitchDialects.NumberList
