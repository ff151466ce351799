import SwitchDialects.Proofs.AosCx.Alike
import SwitchDialects.Proofs.ProCurve.Sections
import SwitchDialects.Translation

/-!
# The order of ProCurve sections

The record of a VLAN is made by the sections of this VLAN. A port has its settings from its own
sections and its VLANs from those that list it: in the order of the sections, which the writer does
not show, for the tagged ones, and from the first and the last of them for the untagged ones, which
are the same VLAN if only one lists the port untagged.
-/

namespace SwitchDialects

namespace Port

/-- A port with the VLANs taken out that list it. -/
def withoutVlans (port : Port) : Port :=
  { port with accessVlan := none, nativeVlan := none, trunkVlans := [] }

end Port

namespace ProCurve

theorem vlanAt_filter (as : List Action) (key : Text) :
    vlanAt (replay start as) key =
      (as.filter (·.block? = some (.vlan key))).foldl (fun r a => a.onVlan key r)
        { id := key } := by
  rw [vlanAt_replay, List.foldl_filter]
  congr 1
  funext record a
  by_cases ha : a.block? = some (.vlan key)
  · simp [ha]
  · rw [if_neg (by simpa using ha)]
    cases a with
    | inVlan id statement =>
      have hid : id ≠ key := fun e => ha (e ▸ rfl)
      rw [Action.onVlan, if_neg hid]
    | _ => rfl

/-- A statement in another block leaves all but the VLANs of a port as it is. -/
theorem Action.withoutVlans_onPort (a : Action) (key : Text) (port : Port) :
    (a.onPort key port).withoutVlans =
      if a.block? = some (.port key) then a.onPort key port.withoutVlans
      else port.withoutVlans := by
  cases a with
  | inVlan id statement =>
    rw [if_neg (by simp [Action.block?]), Action.onPort]
    rcases statement.onPort_cases id key port with h | h | h <;> rw [h] <;> rfl
  | inPort id statement =>
    by_cases hid : id = key
    · rw [if_pos (by rw [hid]; rfl), Action.onPort, if_pos hid]
      cases statement <;> rfl
    · rw [if_neg (by simpa [Action.block?] using hid), Action.onPort, if_neg hid]
  | openPort id => exact (ite_self _).symm
  | _ => rfl

theorem withoutVlans_portAt (as : List Action) (key : Text) :
    (portAt (replay start as) key).withoutVlans =
      (as.filter (·.block? = some (.port key))).foldl (fun r a => a.onPort key r)
        { id := key } := by
  rw [portAt_replay, List.foldl_filter]
  refine (List.foldl_hom Port.withoutVlans fun record a => ?_).symm
  simp only [decide_eq_true_eq]
  exact (a.withoutVlans_onPort key record).symm

/-- Two histories with the same actions, those of each block in the same order, that list every port
untagged in one VLAN at most. -/
structure SameByBlock (as bs : List Action) : Prop where
  perm : as.Perm bs
  filter_eq : ∀ block, as.filter (·.block? = some block) = bs.filter (·.block? = some block)
  silent : ∀ a ∈ as, a.declared? = none
  once : ∀ port, ∀ id ∈ untaggedBy port as, ∀ other ∈ untaggedBy port as, id = other

variable {as bs : List Action}

theorem SameByBlock.vlanAt_eq (h : SameByBlock as bs) (key : Text) :
    vlanAt (replay start as) key = vlanAt (replay start bs) key := by
  rw [vlanAt_filter, vlanAt_filter, h.filter_eq]

theorem SameByBlock.get?_vlans_eq (h : SameByBlock as bs) (key : Text) :
    (replay start as).vlans.get? key = (replay start bs).vlans.get? key := by
  refine ProCurve.get?_vlans_eq ?_ (h.vlanAt_eq key)
  simp only [mem_vlans_keys_replay, h.perm.mem_iff]

/-- The order of the sections reaches the record of a port through its trunk VLANs only. -/
theorem SameByBlock.upToOrder (h : SameByBlock as bs) (key : Text) :
    (portAt (replay start as) key).UpToOrder (portAt (replay start bs) key) := by
  have hmem (id : Text) : id ∈ untaggedBy key as ↔ id ∈ untaggedBy key bs :=
    (h.perm.filterMap (Action.untags? key)).mem_iff
  obtain ⟨hnative, haccess⟩ := Replay.ends_eq_of_mem_iff hmem (h.once key)
  have hrest (port : Port) : { port with trunkVlans := [] } =
      { port.withoutVlans with accessVlan := port.accessVlan, nativeVlan := port.nativeVlan } := rfl
  constructor
  · rw [hrest, hrest, withoutVlans_portAt, withoutVlans_portAt, h.filter_eq, accessVlan_portAt,
      accessVlan_portAt, nativeVlan_portAt, nativeVlan_portAt, hnative, haccess]
  · intro id
    rw [mem_trunkVlans_portAt, mem_trunkVlans_portAt]
    exact (h.perm.filterMap (Action.tags? key)).mem_iff

theorem SameByBlock.sameRecords (h : SameByBlock as bs) :
    AosCx.SameRecords (replay start as) (replay start bs) where
  source := by rw [source_replay, source_replay]
  device := by
    have hbs : ∀ a ∈ bs, a.declared? = none := fun a ha => h.silent a (h.perm.mem_iff.mpr ha)
    rw [device_replay, device_replay, List.filterMap_eq_nil_iff.mpr h.silent,
      List.filterMap_eq_nil_iff.mpr hbs]
  vlans id := by rw [h.get?_vlans_eq]
  portIds id := by simp only [mem_ports_keys_replay, h.perm.mem_iff]
  ports id port other hport hother := by
    rw [← portAt_of_get? hport, ← portAt_of_get? hother]
    exact h.upToOrder id

theorem Reordered.sameByBlock {sections others : List Section} (h : Reordered sections others)
    (once : UntaggedOnce sections) :
    SameByBlock (sections.flatMap Section.actions) (others.flatMap Section.actions) where
  perm := h.perm.flatMap_right _
  filter_eq block := by
    have hkey : ∀ s : Section, ∀ a ∈ s.actions, a.block? = some s.block := fun s =>
      s.block?_of_mem_actions
    have hsections (list : List Section) :
        (list.flatMap Section.actions).filter (·.block? = some block) =
          (list.filter (·.block = block)).flatMap Section.actions := by
      simpa using Replay.filter_flatMap_of_key hkey list (some block)
    rw [hsections, hsections, h.order]
  silent a ha := by
    obtain ⟨s, _, hs⟩ := List.mem_flatMap.mp ha
    have hblock := s.block?_of_mem_actions a hs
    cases a with
    | declare statement => cases hblock
    | _ => rfl
  once port id hid other hother := by
    obtain ⟨ports, hmem, hport⟩ := mem_untaggedBy.mp hid
    obtain ⟨ports', hmem', hport'⟩ := mem_untaggedBy.mp hother
    obtain ⟨s, hs, hlists⟩ := List.mem_flatMap.mp hmem
    obtain ⟨t, ht, hlists'⟩ := List.mem_flatMap.mp hmem'
    exact once s hs t ht port id other (Section.untags_of_mem_actions hlists hport)
      (Section.untags_of_mem_actions hlists' hport')

/-- Sections of a ProCurve configuration may be reordered, if those of one VLAN or one port stay in
order and no port is listed untagged in two VLANs. -/
theorem order_of_blocks_immaterial {sections others : List Section} {text other : Text}
    (reordered : Reordered sections others) (once : UntaggedOnce sections)
    (made : MadeOf sections text) (madeOther : MadeOf others other) (profile : SiteProfile) :
    (Direction.proCurveToAosCx.translate text profile).output =
      (Direction.proCurveToAosCx.translate other profile).output := by
  have hsame : AosCx.SameRecords (read text) (read other) := by
    rw [read_eq_replay, read_eq_replay, made.actions_eq, madeOther.actions_eq]
    exact (reordered.sameByBlock once).sameRecords
  exact hsame.write_eq (keyed_read text) (keyed_read other) profile

/-- Two VLANs and two ports, each of them untagged in one VLAN and tagged in the other. -/
def staffVlan : Section :=
  .ofVlan "30".toList (by decide) ["untagged 1".toList, "tagged 2".toList] (by decide +kernel)

def guestVlan : Section :=
  .ofVlan "20".toList (by decide) ["tagged 1".toList, "untagged 2".toList] (by decide +kernel)

def firstPort : Section :=
  .ofPort "1".toList (by decide) ["name desk".toList] (by decide +kernel)

def firstShut : Section := .ofPort "1".toList (by decide) ["disable".toList] (by decide +kernel)

def vlansFirst : Text :=
  ("vlan 30\n untagged 1\n tagged 2\n exit\nvlan 20\n tagged 1\n untagged 2\n exit\n" ++
    "interface 1\n name desk\n exit\ninterface 1\n disable\n exit\n").toList

def portsFirst : Text :=
  ("interface 1\n name desk\n exit\nvlan 20\n tagged 1\n untagged 2\n exit\n" ++
    "interface 1\n disable\n exit\nvlan 30\n untagged 1\n tagged 2\n exit\n").toList

theorem untaggedOnce_guests : UntaggedOnce [staffVlan, guestVlan, firstPort, firstShut] := by
  have hread : VlanStatement.ofLine? "untagged 1".toList = some (.untagged ["1".toList]) ∧
      VlanStatement.ofLine? "tagged 2".toList = some (.tagged ["2".toList]) ∧
      VlanStatement.ofLine? "untagged 2".toList = some (.untagged ["2".toList]) ∧
      VlanStatement.ofLine? "tagged 1".toList = some (.tagged ["1".toList]) := by decide +kernel
  obtain ⟨hone, htwo, hother, htagged⟩ := hread
  -- each of the sections lists one port at most, and no two of them the same
  have hlists : ∀ s ∈ [staffVlan, guestVlan, firstPort, firstShut], ∀ port id, s.Untags port id →
      port = "1".toList ∧ id = "30".toList ∨ port = "2".toList ∧ id = "20".toList := by
    rintro s hs port id ⟨hblock, line, hline, ports, hread, hport⟩
    simp only [List.mem_cons, List.not_mem_nil, or_false] at hs
    rcases hs with rfl | rfl | rfl | rfl
    · obtain rfl : "30".toList = id := Block.vlan.inj hblock
      rcases List.mem_pair.mp hline with rfl | rfl
      · rw [hone] at hread
        cases hread
        exact Or.inl ⟨List.mem_singleton.mp hport, rfl⟩
      · rw [htwo] at hread
        cases hread
    · obtain rfl : "20".toList = id := Block.vlan.inj hblock
      rcases List.mem_pair.mp hline with rfl | rfl
      · rw [htagged] at hread
        cases hread
      · rw [hother] at hread
        cases hread
        exact Or.inr ⟨List.mem_singleton.mp hport, rfl⟩
    · cases hblock
    · cases hblock
  intro s hs t ht port id other h h'
  rcases hlists s hs port id h with ⟨rfl, rfl⟩ | ⟨rfl, rfl⟩ <;>
    rcases hlists t ht _ other h' with ⟨hport, rfl⟩ | ⟨hport, rfl⟩ <;>
    first | rfl | cases hport

theorem guests_order_immaterial :
    Reordered [staffVlan, guestVlan, firstPort, firstShut]
        [firstPort, guestVlan, firstShut, staffVlan] ∧
      UntaggedOnce [staffVlan, guestVlan, firstPort, firstShut] ∧
      MadeOf [staffVlan, guestVlan, firstPort, firstShut] vlansFirst ∧
      MadeOf [firstPort, guestVlan, firstShut, staffVlan] portsFirst ∧
      read vlansFirst ≠ read portsFirst ∧
      (Direction.proCurveToAosCx.translate vlansFirst .default).output =
        (Direction.proCurveToAosCx.translate portsFirst .default).output := by
  have reordered : Reordered [staffVlan, guestVlan, firstPort, firstShut]
      [firstPort, guestVlan, firstShut, staffVlan] := by
    constructor
    · have hrotate : ([staffVlan] ++ [guestVlan, firstPort, firstShut]).Perm
          ([guestVlan, firstPort, firstShut] ++ [staffVlan]) := List.perm_append_comm
      exact hrotate.trans (.swap _ _ _)
    · intro block
      by_cases hport : firstPort.block = block
      · cases hport
        rfl
      · have hshut : firstShut.block ≠ block := hport
        by_cases hstaff : staffVlan.block = block
        · cases hstaff
          rfl
        · simp [List.filter_cons, hport, hshut, hstaff]
  have made : MadeOf [staffVlan, guestVlan, firstPort, firstShut] vlansFirst := by
    unfold MadeOf
    decide +kernel
  have madeOther : MadeOf [firstPort, guestVlan, firstShut, staffVlan] portsFirst := by
    unfold MadeOf
    decide +kernel
  exact ⟨reordered, untaggedOnce_guests, made, madeOther, by decide +kernel,
    order_of_blocks_immaterial reordered untaggedOnce_guests made madeOther .default⟩

end ProCurve

end SwitchDialects
