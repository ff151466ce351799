import SwitchDialects.Proofs.AosCx.Prepared
import SwitchDialects.Proofs.Ios.Record

/-!
# Networks that are written alike

AOS-CX is written from the records in the order of their numbers. Nothing that is written of a VLAN
depends on its ports; of a port the order of its trunk VLANs makes no difference, nor do the
statements kept of it; of the device only the name and the location are written. So two networks
give the same text that differ in these respects only, in whatever order their records are kept.
-/

namespace SwitchDialects

namespace Port

/-- Two records that hold their trunk VLANs in another order at most. -/
structure UpToOrder (port other : Port) : Prop where
  rest : { port with trunkVlans := [] } = { other with trunkVlans := [] }
  trunk : ∀ vlan, vlan ∈ port.trunkVlans ↔ vlan ∈ other.trunkVlans

variable {port other : Port}

theorem UpToOrder.refl (port : Port) : UpToOrder port port := ⟨rfl, fun _ => Iff.rfl⟩

/-- What does not depend on the trunk VLANs is the same. -/
theorem UpToOrder.same {β : Type} (h : UpToOrder port other) {f : Port → β}
    (hf : ∀ p : Port, f { p with trunkVlans := [] } = f p) : f port = f other := by
  rw [← hf port, h.rest, hf other]

theorem UpToOrder.allowedVlans_eq (h : UpToOrder port other) :
    port.allowedVlans = other.allowedVlans := by
  have haccess : port.accessVlan = other.accessVlan := h.same fun _ => rfl
  have hvoice : port.voiceVlan = other.voiceVlan := h.same fun _ => rfl
  apply NumericOrder.sortBy_foldl_appendNew
  intro vlan
  simp only [List.mem_filter, List.mem_append, h.trunk, haccess, hvoice]

theorem UpToOrder.wantsTrunk_eq (h : UpToOrder port other) (source : Dialect)
    (profile : SiteProfile) : port.wantsTrunk source profile = other.wantsTrunk source profile := by
  have hempty : port.trunkVlans.isEmpty = other.trunkVlans.isEmpty := by
    rw [Bool.eq_iff_iff, List.isEmpty_iff, List.isEmpty_iff, List.eq_nil_iff_forall_not_mem,
      List.eq_nil_iff_forall_not_mem]
    simp only [h.trunk]
  have hvoice : port.carriesVoice source = other.carriesVoice source :=
    h.same (f := (Port.carriesVoice · source)) fun _ => rfl
  have huplink : port.isUplink profile = other.isUplink profile :=
    h.same (f := (Port.isUplink · profile)) fun _ => rfl
  rw [wantsTrunk, wantsTrunk, hempty, hvoice, huplink]

theorem UpToOrder.membership_eq (h : UpToOrder port other) (source : Dialect)
    (profile : SiteProfile) : port.membership source profile = other.membership source profile := by
  have haccess : port.accessVlan = other.accessVlan := h.same fun _ => rfl
  have hnative : port.trunkNative profile = other.trunkNative profile :=
    h.same (f := (Port.trunkNative · profile)) fun _ => rfl
  rw [membership, membership, h.allowedVlans_eq, h.wantsTrunk_eq, hnative, haccess]

theorem UpToOrder.withVoiceNative (h : UpToOrder port other) (profile : SiteProfile) :
    UpToOrder (port.withVoiceNative profile) (other.withVoiceNative profile) := by
  have hlacks : port.lacksVoiceNative profile = other.lacksVoiceNative profile :=
    h.same (f := (Port.lacksVoiceNative · profile)) fun _ => rfl
  have hrest : ({ port with trunkVlans := [], nativeVlan := port.accessVlan } : Port) =
      { other with trunkVlans := [], nativeVlan := other.accessVlan } :=
    h.same (f := fun p : Port => { p with trunkVlans := [], nativeVlan := p.accessVlan })
      fun _ => rfl
  rw [Port.withVoiceNative, Port.withVoiceNative, hlacks]
  split
  · exact ⟨hrest, h.trunk⟩
  · exact h

/-- The order of the trunk VLANs is not seen in what is written. -/
theorem UpToOrder.portBlock_eq (h : UpToOrder port other) (source : Dialect)
    (profile : SiteProfile) :
    AosCx.portBlock source profile port = AosCx.portBlock source profile other := by
  have hid : port.id = other.id := h.same fun _ => rfl
  have hsettings : AosCx.settingLines port = AosCx.settingLines other :=
    h.same fun _ => rfl
  rw [AosCx.portBlock, AosCx.portBlock, AosCx.portLines_eq, AosCx.portLines_eq, hid, hsettings,
    h.membership_eq]

def withoutKept (port : Port) : Port := { port with kept := [] }

theorem UpToOrder.withoutKept (h : UpToOrder port other) :
    UpToOrder port.withoutKept other.withoutKept := by
  have hrest : ({ port with trunkVlans := [], kept := [] } : Port) =
      { other with trunkVlans := [], kept := [] } :=
    h.same (f := fun p : Port => { p with trunkVlans := [], kept := [] }) fun _ => rfl
  exact ⟨hrest, h.trunk⟩

theorem withoutKept_withVoiceNative (port : Port) (profile : SiteProfile) :
    (port.withVoiceNative profile).withoutKept = port.withoutKept.withVoiceNative profile := by
  have hlacks : port.withoutKept.lacksVoiceNative profile = port.lacksVoiceNative profile := rfl
  rw [Port.withVoiceNative, Port.withVoiceNative, hlacks]
  split <;> rfl

end Port

namespace AosCx

/-- Two networks whose records give the same blocks. -/
structure WrittenAlike (profile : SiteProfile) (a b : Network) : Prop where
  device : deviceLines a = deviceLines b
  vlanIds : (a.vlans.values.map Vlan.id).Perm (b.vlans.values.map Vlan.id)
  vlans : ∀ v ∈ a.vlans.values, ∀ w ∈ b.vlans.values, v.id = w.id →
    vlanBlock profile v = vlanBlock profile w
  portIds : (a.ports.values.map Port.id).Perm (b.ports.values.map Port.id)
  ports : ∀ p ∈ a.ports.values, ∀ q ∈ b.ports.values, p.id = q.id →
    portBlock a.source profile p = portBlock b.source profile q

theorem WrittenAlike.outline_eq {profile : SiteProfile} {a b : Network}
    (h : WrittenAlike profile a b) : outline a profile = outline b profile := by
  rw [outline, outline, h.device, NumericOrder.flatMap_sortBy_eq h.vlanIds h.vlans,
    NumericOrder.flatMap_sortBy_eq h.portIds h.ports]

theorem vlanBlock_withoutMembers (profile : SiteProfile) (vlan : Vlan) :
    vlanBlock profile vlan.withoutMembers = vlanBlock profile vlan := rfl

theorem portBlock_withoutKept (source : Dialect) (profile : SiteProfile) (port : Port) :
    portBlock source profile port.withoutKept = portBlock source profile port := rfl

/-- Networks that show no difference: the same name and location, the same VLANs but for their
members, and the same ports but for the order of their trunk VLANs and what is kept of them. -/
structure SameShown (a b : Network) : Prop where
  source : a.source = b.source
  hostname : a.hostname? = b.hostname?
  location : a.location? = b.location?
  vlans : ∀ id, (a.vlans.get? id).map Vlan.withoutMembers =
    (b.vlans.get? id).map Vlan.withoutMembers
  portIds : ∀ id, id ∈ a.ports.keys ↔ id ∈ b.ports.keys
  ports : ∀ id port other, a.ports.get? id = some port → b.ports.get? id = some other →
    port.withoutKept.UpToOrder other.withoutKept

/-- Maps with the same keys, in whatever order. -/
theorem keys_perm_of_mem_iff {α : Type} {a b : OrderedMap α}
    (h : ∀ key, key ∈ a.keys ↔ key ∈ b.keys) : a.keys.Perm b.keys :=
  (List.perm_ext_iff_of_nodup a.nodup_keys b.nodup_keys).mpr h

theorem SameShown.writtenAlike {a b : Network} (h : SameShown a b) (ha : a.Keyed)
    (hb : b.Keyed) (profile : SiteProfile) :
    WrittenAlike profile (prepare a profile) (prepare b profile) := by
  have hsource : (prepare a profile).source = (prepare b profile).source := h.source
  constructor
  · have hhostname : (prepare a profile).hostname? = (prepare b profile).hostname? := h.hostname
    have hlocation : (prepare a profile).location? = (prepare b profile).location? := h.location
    rw [deviceLines, deviceLines, hhostname, hlocation]
  · have hvlans (n : Network) : (prepare n profile).vlans = n.vlans := rfl
    rw [hvlans, hvlans, OrderedMap.map_values_eq_keys ha.vlans,
      OrderedMap.map_values_eq_keys hb.vlans]
    refine keys_perm_of_mem_iff fun key => ?_
    have hsome := congrArg Option.isSome (h.vlans key)
    rw [Option.isSome_map, Option.isSome_map] at hsome
    rw [← OrderedMap.get?_isSome_iff, hsome, OrderedMap.get?_isSome_iff]
  · intro v hv w hw hid
    obtain ⟨i, hi⟩ := OrderedMap.mem_values_iff.mp hv
    obtain ⟨j, hj⟩ := OrderedMap.mem_values_iff.mp hw
    obtain rfl : i = j := by rw [← ha.vlans i v hi, hid, hb.vlans j w hj]
    have hsame := h.vlans i
    rw [show a.vlans.get? i = some v from hi, show b.vlans.get? i = some w from hj] at hsame
    rw [← vlanBlock_withoutMembers, Option.some.inj hsame, vlanBlock_withoutMembers]
  · rw [portIds_prepare ha, portIds_prepare hb]
    exact keys_perm_of_mem_iff h.portIds
  · intro p hp q hq hid
    obtain ⟨i, port, hi, rfl⟩ := mem_values_prepare hp
    obtain ⟨j, other, hj, rfl⟩ := mem_values_prepare hq
    rw [id_withVoiceNative, id_withVoiceNative, ha.ports i port hi, hb.ports j other hj] at hid
    subst hid
    rw [hsource, ← portBlock_withoutKept, ← portBlock_withoutKept _ _ (other.withVoiceNative _),
      Port.withoutKept_withVoiceNative, Port.withoutKept_withVoiceNative]
    exact ((h.ports i port other hi hj).withVoiceNative profile).portBlock_eq _ profile

/-- Networks that show no difference are written in the same way. -/
theorem SameShown.write_eq {a b : Network} (h : SameShown a b) (ha : a.Keyed) (hb : b.Keyed)
    (profile : SiteProfile) : write a profile = write b profile := by
  rw [write, write, (h.writtenAlike ha hb profile).outline_eq]

/-- Networks with the same VLANs but for their members, and the same ports but for the order of
their trunk VLANs. -/
structure SameRecords (a b : Network) : Prop where
  source : a.source = b.source
  device : a.device = b.device
  vlans : ∀ id, (a.vlans.get? id).map Vlan.withoutMembers =
    (b.vlans.get? id).map Vlan.withoutMembers
  portIds : ∀ id, id ∈ a.ports.keys ↔ id ∈ b.ports.keys
  ports : ∀ id port other, a.ports.get? id = some port → b.ports.get? id = some other →
    port.UpToOrder other

theorem SameRecords.sameShown {a b : Network} (h : SameRecords a b) : SameShown a b where
  source := h.source
  hostname := by rw [Network.hostname?, Network.hostname?, h.device]
  location := by rw [Network.location?, Network.location?, h.device]
  vlans := h.vlans
  portIds := h.portIds
  ports id port other hport hother := (h.ports id port other hport hother).withoutKept

/-- Networks with the same records are written in the same way. -/
theorem SameRecords.write_eq {a b : Network} (h : SameRecords a b) (ha : a.Keyed) (hb : b.Keyed)
    (profile : SiteProfile) : write a profile = write b profile :=
  h.sameShown.write_eq ha hb profile

end AosCx

end SwitchDialects
