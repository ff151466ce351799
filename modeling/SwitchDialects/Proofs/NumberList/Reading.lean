import Mathlib.Algebra.Order.BigOperators.Group.List
import Mathlib.Algebra.Order.Group.Nat
import Mathlib.Data.List.Intervals
import SwitchDialects.Proofs.Ios.Wording
import SwitchDialects.Proofs.NumberList
import SwitchDialects.Proofs.NumberList.Grammar

/-!
# Reading a list as it was judged

A list is judged with its blanks taken out, and read with them. What is judged names the numbers
that its elements denote, and an accepted list is read as naming these as long as its blanks stand
around its numbers. A blank inside a number is not seen by the judgement but by the reading: there
a single number is kept with its blank, and a range is left out.
-/

namespace SwitchDialects

namespace Text

theorem cut?_append {separator : Char} {before after : Text} (h : separator ∉ before) :
    cut? separator (before ++ separator :: after) = some (before, after) := by
  induction before with
  | nil => simp [cut?]
  | cons c before ih =>
    obtain ⟨hc, hbefore⟩ : separator ≠ c ∧ separator ∉ before := by simpa using h
    rw [List.cons_append, cut?, if_neg hc.symm, ih hbefore]
    rfl

end Text

namespace NumberList

open Text

/-- The numbers that an element without blanks denotes: its own, or all from its first to its
last. -/
def denoted (element : Text) : List Nat :=
  match element.splitOn '-' with
  | [first, last] => List.Ico (Decimal.value first) (Decimal.value last + 1)
  | _ => [Decimal.value element]

def denotedBy (list : Text) : List Nat := ((compact list).splitOn ',').flatMap denoted

/-- Blanks stand around the numbers of an element only, and not inside one. -/
def Unbroken (element : Text) : Prop :=
  ∀ side ∈ element.splitOn '-', ∀ c ∈ trim side, isBlank c = false

-- written out, as characters are finite and one might be looked for among all of them
instance (element : Text) : Decidable (Unbroken element) :=
  have (side : Text) : Decidable (∀ c ∈ trim side, isBlank c = false) :=
    List.decidableBAll (isBlank · = false) (trim side)
  List.decidableBAll _ (element.splitOn '-')

def members (element : Text) : List Text :=
  match element.splitOn '-' with
  | [first, last] => between (Decimal.value first) (Decimal.value last)
  | _ => [element]

theorem map_value_between (first last : Nat) :
    (between first last).map Decimal.value = List.Ico first (last + 1) := by
  rw [between, List.map_map, List.Ico]
  refine (List.map_congr_left fun n _ => ?_).trans (List.map_id _)
  exact Decimal.value_render n

theorem map_value_members (element : Text) :
    (members element).map Decimal.value = denoted element := by
  rw [members, denoted]
  split
  · exact map_value_between _ _
  · rfl

/-- A member of an element of the grammar is the number of a VLAN. -/
theorem isVlan_of_mem_members {element vlan : Text} (h : IsElement element)
    (hvlan : vlan ∈ members element) : IsDigits vlan ∧ IsVlan (Decimal.value vlan) := by
  cases h with
  | single digits isVlan =>
    rw [members, List.splitOn_eq_singleton (notMem_hyphen digits)] at hvlan
    obtain rfl := List.mem_singleton.mp hvlan
    exact ⟨digits, isVlan⟩
  | range firstDigits firstVlan lastDigits lastVlan =>
    rw [members, List.splitOn_append_cons_self,
      List.splitOn_eq_singleton (notMem_hyphen firstDigits),
      List.splitOn_eq_singleton (notMem_hyphen lastDigits)] at hvlan
    obtain ⟨n, hfirst, hlast, rfl⟩ := mem_between.mp hvlan
    refine ⟨isNumber_iff.mp (Decimal.isNumber_render n), ?_⟩
    rw [Decimal.value_render]
    exact ⟨firstVlan.1.trans hfirst, hlast.trans lastVlan.2⟩

theorem trim_eq_compact {t : Text} (h : ∀ c ∈ trim t, isBlank c = false) : trim t = compact t := by
  rw [← compact_trim, compact_eq_self h]

theorem readDigits?_of_isVlanId {t : Text} (h : IsVlanId t) :
    Decimal.readDigits? Decimal.limit32 t = some (Decimal.value t) := by
  have hsmall : Decimal.value t < Decimal.limit32 :=
    Nat.lt_of_le_of_lt (isVlanId_iff.mp h).2.2 (by decide)
  exact Decimal.readDigits?_eq_some_iff.mpr ⟨h.1, hsmall, rfl⟩

/-- A bound with blanks around it only is read. -/
theorem vlanBound?_of_visible {t : Text} (h : IsVlanId (compact t))
    (hvisible : ∀ c ∈ trim t, isBlank c = false) :
    vlanBound? t = some (Decimal.value (compact t)) := by
  rw [vlanBound?, trim_eq_compact hvisible, Decimal.read?.eq_def]
  split
  case h_1 rest hplus =>
    have hbad : ('+').isDigit = true :=
      (isVlanId_iff.mp h).1.2 '+' (by rw [hplus]; exact List.mem_cons_self)
    exact absurd hbad (by decide)
  case h_2 => exact readDigits?_of_isVlanId h

/-- A bound with a blank inside it is not. -/
theorem vlanBound?_of_blank {t : Text} (h : IsVlanId (compact t)) {c : Char} (hc : c ∈ trim t)
    (hblank : isBlank c = true) : vlanBound? t = none := by
  cases hbound : vlanBound? t with
  | none => rfl
  | some n =>
    have hnumber := (isNumber_trim_of_vlanBound? h.1 hbound).1
    have hvisible := isBlank_of_isDigit ((Decimal.isDigit_of_isNumber hnumber).2 c hc)
    rw [hblank] at hvisible
    cases hvisible

theorem vlansOfElement_single {n : Text} (h : '-' ∉ n) (hne : trim n ≠ []) :
    vlansOfElement n = [trim n] := by
  have hcut : cut? '-' (trim n) = none :=
    cut?_eq_none_iff.mpr fun hmem => h (mem_of_mem_stripEnds hmem)
  simp [vlansOfElement, hcut, hne]

/-- The blanks at the ends of a range are among those around its bounds. -/
theorem trim_range {first last : Text} (hfirst : '-' ∉ first) (hlast : '-' ∉ last) :
    ∃ low high, trim (first ++ '-' :: last) = low ++ '-' :: high ∧ '-' ∉ low ∧
      trim low = trim first ∧ trim high = trim last := by
  have hsides : ((trim (first ++ '-' :: last)).splitOn '-').map trim = [trim first, trim last] := by
    rw [map_trim_splitOn_trim (by decide), List.splitOn_append_cons_self,
      List.splitOn_eq_singleton hfirst, List.splitOn_eq_singleton hlast]
    rfl
  obtain ⟨low, sides, hlow, hlowTrim, hrest⟩ := List.map_eq_cons_iff.mp hsides
  obtain ⟨high, none, rfl, hhighTrim, hnone⟩ := List.map_eq_cons_iff.mp hrest
  obtain rfl := List.map_eq_nil_iff.mp hnone
  have hjoin : ['-'].intercalate ((trim (first ++ '-' :: last)).splitOn '-') =
      trim (first ++ '-' :: last) := List.intercalate_splitOn '-'
  rw [hlow] at hjoin
  exact ⟨low, high, by simpa [List.intercalate] using hjoin.symm,
    notMem_of_mem_splitOn (by rw [hlow]; simp), hlowTrim, hhighTrim⟩

theorem vlansOfElement_range {first last : Text} (hfirst : '-' ∉ first) (hlast : '-' ∉ last) :
    vlansOfElement (first ++ '-' :: last) =
      match vlanBound? first, vlanBound? last with
      | some low, some high => if high ≤ maxVlan then between low high else []
      | _, _ => [] := by
  obtain ⟨low, high, happend, hfree, hlow, hhigh⟩ := trim_range hfirst hlast
  have hbound {a b : Text} (h : trim a = trim b) : vlanBound? a = vlanBound? b := by
    rw [vlanBound?, h, vlanBound?]
  have hne : (low ++ '-' :: high).isEmpty = false := by simp
  simp only [vlansOfElement, happend, hne, cut?_append hfree, hbound hlow, hbound hhigh]
  rfl

/-- The sides of an element that is accepted are the numbers of VLANs, their blanks aside. -/
theorem exists_sides {element : Text} (h : IsElement (compact element)) :
    ∃ sides, Sides element sides ∧ ∀ side ∈ sides, IsVlanId (compact side) := by
  obtain ⟨sides, hsides, hall⟩ := isElement_iff.mp h
  obtain ⟨rfl, hlength⟩ := sides_iff.mp hsides
  rw [splitOn_compact (by decide)] at hlength hall
  refine ⟨element.splitOn '-', sides_iff.mpr ⟨rfl, by simpa using hlength⟩, ?_⟩
  exact fun side hside => hall _ (List.mem_map_of_mem hside)

/-- An element is read as its members if no blank is inside its numbers. -/
theorem vlansOfElement_of_unbroken {element : Text} (h : IsElement (compact element))
    (unbroken : Unbroken element) : vlansOfElement element = members (compact element) := by
  obtain ⟨sides, hsides, hall⟩ := exists_sides h
  have hsplit := (sides_iff.mp hsides).1
  rw [Unbroken, hsplit] at unbroken
  rw [members, splitOn_compact (by decide), hsplit]
  cases hsides with
  | single hfree =>
    have hvlan := hall element (by simp)
    have htrim := trim_eq_compact (unbroken element (by simp))
    have hne : trim element ≠ [] := htrim ▸ (Decimal.isDigit_of_isNumber hvlan.1).1
    rw [vlansOfElement_single hfree hne, htrim]
    rfl
  | @range first last hfirst hlast =>
    have hlastVlan := hall last (by simp)
    have hmax : Decimal.value (compact last) ≤ maxVlan := (isVlanId_iff.mp hlastVlan).2.2
    rw [vlansOfElement_range hfirst hlast,
      vlanBound?_of_visible (hall first (by simp)) (unbroken first (by simp)),
      vlanBound?_of_visible hlastVlan (unbroken last (by simp))]
    exact if_pos hmax

/-- An element with its blanks taken out is read as its members. -/
theorem vlansOfElement_compact {element : Text} (h : IsElement (compact element)) :
    vlansOfElement (compact element) = members (compact element) := by
  have hcompact (t : Text) : ∀ c ∈ compact t, isBlank c = false := fun _ hc => (mem_compact.mp hc).2
  have hsame : compact (compact element) = compact element := compact_eq_self (hcompact element)
  have hunbroken : Unbroken (compact element) := fun side hside c hc =>
    hcompact element c (mem_of_mem_splitOn hside (mem_of_mem_stripEnds hc))
  have hread := @vlansOfElement_of_unbroken (compact element) (hsame.symm ▸ h) hunbroken
  rwa [hsame] at hread

/-- With a blank inside a number, a single number is kept with it, and a range is left out. -/
theorem vlansOfElement_of_broken {element : Text} (h : IsElement (compact element))
    (broken : ¬ Unbroken element) :
    (vlansOfElement element = [trim element] ∧ members (compact element) = [compact element] ∧
        trim element ≠ compact element) ∨
      vlansOfElement element = [] := by
  obtain ⟨sides, hsides, hall⟩ := exists_sides h
  have hsplit := (sides_iff.mp hsides).1
  rw [Unbroken, hsplit] at broken
  push Not at broken
  obtain ⟨side, hside, c, hc, hblank⟩ := broken
  have hblank : isBlank c = true := by simpa using hblank
  cases hsides with
  | single hfree =>
    obtain rfl := List.mem_singleton.mp hside
    refine .inl ⟨vlansOfElement_single hfree (List.ne_nil_of_mem hc), ?_, fun hsame => ?_⟩
    · rw [members, splitOn_compact (by decide), hsplit]
      rfl
    · have hvisible := (mem_compact.mp (hsame ▸ hc)).2
      rw [hblank] at hvisible
      cases hvisible
  | @range first last hfirst hlast =>
    right
    rw [vlansOfElement_range hfirst hlast]
    rcases List.mem_pair.mp hside with rfl | rfl
    · rw [vlanBound?_of_blank (hall side (by simp)) hc hblank]
    · rw [vlanBound?_of_blank (hall side (by simp)) hc hblank]
      cases vlanBound? first <;> rfl

/-- The blanks in an element count unless they are around its numbers or the element denotes
nothing. -/
theorem vlansOfElement_eq_iff {element : Text} (h : IsElement (compact element)) :
    vlansOfElement element = vlansOfElement (compact element) ↔
      Unbroken element ∨ denoted (compact element) = [] := by
  rw [vlansOfElement_compact h, ← map_value_members, List.map_eq_nil_iff]
  by_cases unbroken : Unbroken element
  · simp [vlansOfElement_of_unbroken h unbroken, unbroken]
  · rcases vlansOfElement_of_broken h unbroken with ⟨hread, hmembers, hne⟩ | hread
    · simp [hread, hmembers, hne, unbroken]
    · rw [hread]
      exact ⟨fun hnone => .inr hnone.symm, fun hor => (hor.resolve_left unbroken).symm⟩

/-- Blanks never add a member. -/
theorem length_vlansOfElement_le {element : Text} (h : IsElement (compact element)) :
    (vlansOfElement element).length ≤ (vlansOfElement (compact element)).length := by
  rw [vlansOfElement_compact h]
  by_cases unbroken : Unbroken element
  · rw [vlansOfElement_of_unbroken h unbroken]
  · rcases vlansOfElement_of_broken h unbroken with ⟨hread, hmembers, _⟩ | hread
    · rw [hread, hmembers]
      simp
    · simp [hread]

/-- Lists put together from pieces, each as long as its counterpart at most, are equal only if the
pieces are. -/
theorem flatMap_eq_iff {α β : Type} {f g : α → List β} {items : List α}
    (h : ∀ x ∈ items, (f x).length ≤ (g x).length) :
    items.flatMap f = items.flatMap g ↔ ∀ x ∈ items, f x = g x := by
  constructor
  case mpr => exact List.flatMap_congr
  case mp =>
    intro heq
    induction items with
    | nil => simp
    | cons x items ih =>
      have hitems : ∀ y ∈ items, (f y).length ≤ (g y).length := fun y hy => h y (by simp [hy])
      have hrest : (items.flatMap f).length ≤ (items.flatMap g).length := by
        rw [List.length_flatMap, List.length_flatMap]
        exact List.sum_le_sum hitems
      rw [List.flatMap_cons, List.flatMap_cons] at heq
      have htotal := congrArg List.length heq
      rw [List.length_append, List.length_append] at htotal
      have hfirst : (f x).length = (g x).length := by
        have := h x (by simp)
        omega
      obtain ⟨hx, hothers⟩ := List.append_inj heq hfirst
      simpa [hx] using ih hitems hothers

theorem vlans_compact (list : Text) :
    vlans (compact list) = (list.splitOn ',').flatMap fun e => vlansOfElement (compact e) := by
  rw [vlans, splitOn_compact (by decide), List.flatMap_map]

theorem isElement_of_mem {list element : Text} (h : accepts list = true)
    (helement : element ∈ list.splitOn ',') : IsElement (compact element) := by
  refine rejectElement?_eq_none_iff.mp (accepts_iff.mp h _ ?_)
  rw [splitOn_compact (by decide)]
  exact List.mem_map_of_mem helement

theorem vlans_compact_eq_members {list : Text} (h : accepts list = true) :
    vlans (compact list) = ((compact list).splitOn ',').flatMap members := by
  rw [vlans_compact, splitOn_compact (by decide), List.flatMap_map]
  exact List.flatMap_congr fun element he => vlansOfElement_compact (isElement_of_mem h he)

/-- An accepted list does not start with `add`, so all of it is the list of the statement. -/
theorem trunkSpec_of_accepts {list : Text} (h : accepts list = true) :
    Ios.trunkSpec list = list := by
  have hadd : "add ".toList.isPrefixOf? list = none := by
    cases hprefix : "add ".toList.isPrefixOf? list with
    | none => rfl
    | some rest =>
      have happend := List.isPrefixOf?_eq_some_iff_append_eq.mp hprefix
      have hletter := of_mem_of_accepts h (c := 'a') (by rw [← happend]; simp)
      exact absurd hletter (by decide)
  rw [Ios.trunkSpec, hadd]
  rfl

theorem trunkList_of_accepts {list : Text} (h : accepts list = true) :
    Ios.trunkList list = vlans list := by
  rw [Ios.trunkList_eq, trunkSpec_of_accepts h, if_pos h]

theorem mem_trunkVlans_trunk {vlans : List Text} {port : Port} {vlan : Text} :
    vlan ∈ ((Ios.PortStatement.trunk vlans).apply port).trunkVlans ↔
      vlan ∈ port.trunkVlans ∨ vlan ∈ vlans := by
  rw [Ios.PortStatement.apply, Ios.foldl_addTrunkVlan, mem_foldl_appendNew]

/-- Without its blanks an accepted list is read as the numbers that it denotes. With them it is read
the same if and only if no blank is inside a number of an element that denotes any, and then a
trunk is given all of these numbers. -/
theorem accepted_list_read {list : Text} (h : accepts list = true) :
    (∀ vlan ∈ vlans (compact list), IsDigits vlan ∧ IsVlan (Decimal.value vlan)) ∧
    (vlans (compact list)).map Decimal.value = denotedBy list ∧
    (vlans list = vlans (compact list) ↔
      ∀ element ∈ list.splitOn ',', Unbroken element ∨ denoted (compact element) = []) ∧
    (vlans list = vlans (compact list) → ∀ port : Port, ∀ n ∈ denotedBy list,
      ∃ vlan ∈ ((Ios.PortStatement.trunk (Ios.trunkList list)).apply port).trunkVlans,
        IsDigits vlan ∧ Decimal.value vlan = n) := by
  have hmembers := vlans_compact_eq_members h
  have hvlan : ∀ vlan ∈ vlans (compact list), IsDigits vlan ∧ IsVlan (Decimal.value vlan) := by
    intro vlan hvlan
    rw [hmembers, splitOn_compact (by decide), List.flatMap_map] at hvlan
    obtain ⟨element, helement, hvlan⟩ := List.mem_flatMap.mp hvlan
    exact isVlan_of_mem_members (isElement_of_mem h helement) hvlan
  have hvalues : (vlans (compact list)).map Decimal.value = denotedBy list := by
    rw [hmembers, List.map_flatMap, denotedBy]
    exact List.flatMap_congr fun element _ => map_value_members element
  refine ⟨hvlan, hvalues, ?same, ?applied⟩
  case same =>
    rw [vlans_compact, vlans, flatMap_eq_iff fun element he =>
      length_vlansOfElement_le (isElement_of_mem h he)]
    exact forall₂_congr fun element he => vlansOfElement_eq_iff (isElement_of_mem h he)
  case applied =>
    intro hsame port n hn
    rw [← hvalues] at hn
    obtain ⟨vlan, hmem, hvalue⟩ := List.mem_map.mp hn
    refine ⟨vlan, mem_trunkVlans_trunk.mpr (.inr ?_), (hvlan vlan hmem).1, hvalue⟩
    rwa [trunkList_of_accepts h, hsame]

def spacedList : Text := " 10 , 20 - 022,30-2 9".toList

theorem spacedList_read :
    accepts spacedList = true ∧ vlans spacedList = vlans (compact spacedList) ∧
      (vlans spacedList).map Decimal.value = [10, 20, 21, 22] ∧
      ∃ vlan ∈
          ((Ios.PortStatement.trunk (Ios.trunkList spacedList)).apply { id := ['1'] }).trunkVlans,
        IsDigits vlan ∧ Decimal.value vlan = 22 :=
  have haccepts : accepts spacedList = true := by decide +kernel
  have hread := accepted_list_read haccepts
  have hsame : vlans spacedList = vlans (compact spacedList) := hread.2.2.1.mpr (by decide +kernel)
  ⟨haccepts, hsame, by decide +kernel, hread.2.2.2 hsame _ 22 (by decide +kernel)⟩

def brokenList : Text := "1 0,2 0-22".toList

theorem brokenList_misread :
    accepts brokenList = true ∧ denotedBy brokenList = [10, 20, 21, 22] ∧
      vlans (compact brokenList) = ["10".toList, "20".toList, "21".toList, "22".toList] ∧
      vlans brokenList = ["1 0".toList] := by
  decide +kernel

end NumberList

end SwitchDialects
