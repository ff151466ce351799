import SwitchDialects.Proofs.AosCx.Alike
import SwitchDialects.Proofs.Ios.Printed
import SwitchDialects.Proofs.Ios.Sections

/-!
# The order of sections

AOS-CX is written from the records in the order of their numbers, and nothing that is written of a
VLAN depends on its ports. The record of a port, and that of a VLAN but for its ports, is made by
the sections about it. So sections about different records may be exchanged, although the ports
that a VLAN has after it, and the order in which records are kept, may well be others.
-/

namespace SwitchDialects

namespace Ios

/-- Two histories that do the same to each record and declare nothing about the device. -/
structure SameByTarget (as bs : List Action) : Prop where
  filter_eq : ∀ target,
    as.filter (·.target? = some target) = bs.filter (·.target? = some target)
  targeted : ∀ a, a ∈ as ∨ a ∈ bs → a.target?.isSome = true

variable {as bs : List Action}

theorem SameByTarget.mem_iff (h : SameByTarget as bs) {a : Action} {target : Target}
    (ha : a.target? = some target) : a ∈ as ↔ a ∈ bs := by
  have hfilter (cs : List Action) : a ∈ cs.filter (·.target? = some target) ↔ a ∈ cs := by
    simp [ha]
  rw [← hfilter as, h.filter_eq, hfilter]

/-- What is read off the actions about one record is the same. -/
theorem SameByTarget.filterMap_eq {β : Type} (h : SameByTarget as bs) (target : Target)
    {f : Action → Option β} (hf : ∀ a, (f a).isSome = true → a.target? = some target) :
    as.filterMap f = bs.filterMap f := by
  have himp : ∀ a, (f a).isSome = true → decide (a.target? = some target) = true := fun a ha =>
    decide_eq_true (hf a ha)
  rw [← Replay.filterMap_filter_of_imp himp as, h.filter_eq, Replay.filterMap_filter_of_imp himp]

theorem SameByTarget.statementsOf_eq (h : SameByTarget as bs) (port : Text) :
    statementsOf port as = statementsOf port bs := by
  refine h.filterMap_eq (.port port) fun a ha => ?_
  cases a with
  | inPort id statement =>
    by_cases hid : id = port
    · rw [hid]; rfl
    · simp [hid] at ha
  | _ => cases ha

theorem SameByTarget.vlanStatementsOf_eq (h : SameByTarget as bs) (vlan : Text) :
    vlanStatementsOf vlan as = vlanStatementsOf vlan bs := by
  refine h.filterMap_eq (.vlan vlan) fun a ha => ?_
  cases a with
  | inVlan id statement =>
    by_cases hid : id = vlan
    · rw [hid]; rfl
    · simp [hid] at ha
  | _ => cases ha

/-- Histories that do the same to each record leave the same records. -/
theorem SameByTarget.sameRecords (h : SameByTarget as bs) (ha : Ordered as) (hb : Ordered bs) :
    AosCx.SameRecords (replay start as) (replay start bs) := by
  have hnothing (cs : List Action) (hcs : ∀ a ∈ cs, a.target?.isSome = true) :
      (replay start cs).device = [] := by
    rw [device_replay]
    refine List.filterMap_eq_nil_iff.mpr fun a hmem => ?_
    have htarget := hcs a hmem
    cases a with
    | declare statement => cases htarget
    | _ => rfl
  constructor
  · rw [source_replay, source_replay]
  · rw [hnothing as fun a hmem => h.targeted a (.inl hmem),
      hnothing bs fun a hmem => h.targeted a (.inr hmem)]
  · intro id
    rw [get?_vlans_withoutMembers ha, get?_vlans_withoutMembers hb, h.vlanStatementsOf_eq]
    simp only [h.mem_iff (a := .openVlan id) rfl]
  · intro id
    rw [mem_ports_keys_replay ha, mem_ports_keys_replay hb]
    exact h.mem_iff rfl
  · intro id port other hport hother
    rw [get?_ports_replay ha, h.statementsOf_eq] at hport
    rw [get?_ports_replay hb] at hother
    simp only [h.mem_iff (a := .openPort id) rfl] at hport
    obtain rfl : port = other := Option.some.inj (hport.symm.trans hother)
    exact .refl port

theorem Reordered.sameByTarget {sections others : List Section} (h : Reordered sections others) :
    SameByTarget (sections.flatMap Section.actions) (others.flatMap Section.actions) where
  filter_eq target := by
    rw [filter_actions_sections, h.order, filter_actions_sections]
  targeted a ha := by
    have hsection : ∃ s : Section, a ∈ s.actions := by
      rcases ha with ha | ha <;> obtain ⟨s, _, hs⟩ := List.mem_flatMap.mp ha <;> exact ⟨s, hs⟩
    obtain ⟨s, hs⟩ := hsection
    exact (s.target?_of_mem_actions a hs).2

end Ios

/-- Sections of an IOS configuration may be reordered, if those about one record stay in order. -/
theorem order_of_sections_immaterial {sections others : List Ios.Section} {text other : Text}
    (reordered : Ios.Reordered sections others) (made : Ios.MadeOf sections text)
    (madeOther : Ios.MadeOf others other) (profile : SiteProfile) :
    (Direction.iosToAosCx.translate text profile).output =
      (Direction.iosToAosCx.translate other profile).output := by
  have hsame : AosCx.SameRecords (Ios.read text) (Ios.read other) := by
    have htext := Ios.ordered_actions text
    have hother := Ios.ordered_actions other
    rw [Ios.read_eq_replay, Ios.read_eq_replay]
    rw [made.actions_eq] at htext ⊢
    rw [madeOther.actions_eq] at hother ⊢
    exact reordered.sameByTarget.sameRecords htext hother
  exact hsame.write_eq (Ios.keyed_read text) (Ios.keyed_read other) profile

def deskPort : Ios.Section :=
  .ofPort ["switchport access vlan 10".toList, "power inline auto".toList] (by decide +kernel)
    "Gi0/1".toList "1".toList (by decide) (by decide) (by decide)

def deskShut : Ios.Section :=
  .ofPort ["shutdown".toList] (by decide +kernel) "Gi0/1".toList "1".toList (by decide) (by decide)
    (by decide)

def staffVlan : Ios.Section :=
  .ofVlan ["name staff".toList] (by decide +kernel) "10".toList (by decide)

def staffRouted : Ios.Section :=
  .ofRouted ["ip address 10.0.0.1 255.0.0.0".toList] (by decide +kernel) "10".toList (by decide)

/-- The port is named before the VLAN that it joins, and so is no member of it. -/
def deskFirst : Text :=
  ("interface Gi0/1\n switchport access vlan 10\n power inline auto\n!\n" ++
    "vlan 10\n name staff\n!\n" ++
    "interface Vlan10\n ip address 10.0.0.1 255.0.0.0\n!\n" ++
    "interface Gi0/1\n shutdown\n!\n").toList

def staffFirst : Text :=
  ("vlan 10\n name staff\n!\n" ++
    "interface Gi0/1\n switchport access vlan 10\n power inline auto\n!\n" ++
    "interface Gi0/1\n shutdown\n!\n" ++
    "interface Vlan10\n ip address 10.0.0.1 255.0.0.0\n!\n").toList

theorem desk_order_immaterial :
    Ios.Reordered [deskPort, staffVlan, staffRouted, deskShut]
        [staffVlan, deskPort, deskShut, staffRouted] ∧
      Ios.MadeOf [deskPort, staffVlan, staffRouted, deskShut] deskFirst ∧
      Ios.MadeOf [staffVlan, deskPort, deskShut, staffRouted] staffFirst ∧
      Ios.read deskFirst ≠ Ios.read staffFirst ∧
      (Direction.iosToAosCx.translate deskFirst .default).output =
        (Direction.iosToAosCx.translate staffFirst .default).output := by
  have reordered : Ios.Reordered [deskPort, staffVlan, staffRouted, deskShut]
      [staffVlan, deskPort, deskShut, staffRouted] := by
    constructor
    · exact (List.Perm.swap staffVlan deskPort _).trans
        (.cons _ (.cons _ (.swap deskShut staffRouted [])))
    · intro target
      by_cases hport : deskPort.about = some target
      · cases hport
        rfl
      · by_cases hvlan : staffVlan.about = some target
        · cases hvlan
          rfl
        · have hshut : deskShut.about ≠ some target := hport
          have hrouted : staffRouted.about ≠ some target := hvlan
          simp [hport, hvlan, hshut, hrouted]
  have made : Ios.MadeOf [deskPort, staffVlan, staffRouted, deskShut] deskFirst := by
    unfold Ios.MadeOf
    decide +kernel
  have madeOther : Ios.MadeOf [staffVlan, deskPort, deskShut, staffRouted] staffFirst := by
    unfold Ios.MadeOf
    decide +kernel
  exact ⟨reordered, made, madeOther, by decide +kernel,
    order_of_sections_immaterial reordered made madeOther .default⟩

end SwitchDialects
