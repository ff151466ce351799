import SwitchDialects.Proofs.AosCx.Prepared
import SwitchDialects.Proofs.Entries

/-!
# The layout of an AOS-CX configuration

The name and the location of the device come first, if it has them, and the statements about the
spanning tree stand between the VLANs and the ports. Each VLAN and each port is one entry, and both
are listed by number.
-/

namespace SwitchDialects

open Text

namespace AosCx

def vlanEntry (profile : SiteProfile) (vlan : Vlan) : Entry where
  head := vlanHeader vlan.id
  members := (vlan.name.map ("name ".toList ++ ·)).toList ++
    (if vlan.isVoice profile then ["voice".toList] else [])

def portEntry (source : Dialect) (profile : SiteProfile) (port : Port) : Entry where
  head := portHeader profile port.id
  members := portLines source profile (port.withVoiceNative profile)

def deviceHeads (network : Network) : List Text :=
  (network.hostname?.map ("hostname ".toList ++ ·)).toList ++
    (network.location?.map ("snmp-server system-location ".toList ++ ·)).toList

def spanningTreeHeads : List Text :=
  ["spanning-tree mode rpvst".toList, "spanning-tree".toList]

def entries (network : Network) (profile : SiteProfile) (vlans : List Vlan) (ports : List Port) :
    List Entry :=
  (deviceHeads network).map Entry.single ++ vlans.map (vlanEntry profile) ++
    spanningTreeHeads.map Entry.single ++ ports.map (portEntry network.source profile)

/-- The entries of a network, every VLAN and every port once, in the order of their numbers. -/
def Entries (network : Network) (profile : SiteProfile) (list : List Entry) : Prop :=
  ∃ vlans ports, vlans.Perm network.vlans.values ∧
    vlans.Pairwise (fun v w => NumericOrder.le v.id w.id = true) ∧
    ports.Perm network.ports.values ∧
    ports.Pairwise (fun p q => NumericOrder.le p.id q.id = true) ∧
    list = entries network profile vlans ports

theorem vlanBlock_eq (profile : SiteProfile) (vlan : Vlan) :
    vlanBlock profile vlan = Outline.block Entry.head Entry.members (vlanEntry profile vlan) := by
  rw [vlanBlock]
  cases hname : vlan.name <;> cases hvoice : vlan.isVoice profile <;>
    simp [Outline.block, vlanEntry, vlanHeader, hname, hvoice]

theorem portBlock_eq (source : Dialect) (profile : SiteProfile) (port : Port) :
    portBlock source profile (port.withVoiceNative profile) =
      Outline.block Entry.head Entry.members (portEntry source profile port) := by
  rw [portBlock, id_withVoiceNative]
  rfl

theorem deviceLines_eq (network : Network) :
    deviceLines network = (deviceHeads network).map .flush := by
  rw [deviceLines, deviceHeads]
  cases network.hostname? <;> cases network.location? <;> rfl

variable {network : Network} {profile : SiteProfile}

/-- The outline of a network is that of its entries in order. -/
theorem outline_eq_entries (keyed : network.Keyed) :
    outline (prepare network profile) profile =
      Entry.outline (entries network profile (NumericOrder.sortBy Vlan.id network.vlans.values)
        (NumericOrder.sortBy Port.id network.ports.values)) := by
  have hports : (NumericOrder.sortBy Port.id (prepare network profile).ports.values).flatMap
      (portBlock network.source profile) =
        (NumericOrder.sortBy Port.id network.ports.values).flatMap fun port =>
          portBlock network.source profile (port.withVoiceNative profile) := by
    refine NumericOrder.flatMap_sortBy_eq ?_ fun p hp q hq hid => ?_
    · rw [portIds_prepare keyed, OrderedMap.map_values_eq_keys keyed.ports]
    · obtain ⟨key, record, hget, rfl⟩ := mem_values_prepare hp
      have hmem := OrderedMap.mem_values_iff.mpr ⟨key, hget⟩
      rw [id_withVoiceNative] at hid
      rw [OrderedMap.eq_of_key_eq keyed.ports hmem hq hid]
  have hdevice : deviceLines (prepare network profile) = (deviceHeads network).map .flush :=
    deviceLines_eq (prepare network profile)
  have hsource : (prepare network profile).source = network.source := rfl
  have hvlans : (prepare network profile).vlans = network.vlans := rfl
  rw [outline, hdevice, hsource, hvlans, hports, entries, Entry.outline_append,
    Entry.outline_append, Entry.outline_append, Entry.outline_singles, Entry.outline_singles,
    Entry.outline, Entry.outline, List.flatMap_map, List.flatMap_map]
  simp only [portBlock_eq, funext (vlanBlock_eq profile)]
  rfl

theorem map_head_entries (network : Network) (profile : SiteProfile) (vlans : List Vlan)
    (ports : List Port) : (entries network profile vlans ports).map Entry.head =
      deviceHeads network ++ vlans.map (vlanHeader ·.id) ++ spanningTreeHeads ++
        ports.map (portHeader profile ·.id) := by
  simp [entries, Entry.single, vlanEntry, portEntry, Function.comp_def]

theorem opensNone_deviceHeads : ∀ line ∈ deviceHeads network, OpensNone line := by
  intro line hline
  rw [deviceHeads, List.mem_append, Option.mem_toList, Option.mem_toList,
    Option.map_eq_some_iff, Option.map_eq_some_iff] at hline
  rcases hline with ⟨name, _, rfl⟩ | ⟨place, _, rfl⟩ <;> exact ⟨⟨rfl, by simp⟩, rfl, rfl⟩

theorem opensNone_spanningTreeHeads : ∀ line ∈ spanningTreeHeads, OpensNone line := by
  intro line hline
  rcases List.mem_pair.mp hline with rfl | rfl <;> exact ⟨⟨rfl, by decide⟩, rfl, rfl⟩

theorem written (keyed : network.Keyed) (fitting : FittingNetwork network)
    (hstem : OneLine profile.portStem) (hsite : OneLine profile.nativeVlan) :
    Written indent network
      (entries network profile (NumericOrder.sortBy Vlan.id network.vlans.values)
        (NumericOrder.sortBy Port.id network.ports.values)) (write network profile) where
  output_eq := by rw [write, outline_eq_entries keyed]
  ne_nil := by simp [entries, spanningTreeHeads]
  oneLine := outline_eq_entries keyed ▸ oneLine_outline (fitting.prepare profile) hstem hsite
  headed := by
    rw [map_head_entries]
    exact headed_of_blocks opensNone_deviceHeads (NumericOrder.sortBy_perm ..)
      opensNone_spanningTreeHeads (NumericOrder.sortBy_perm ..)
      fun id => ⟨profile.portStem ++ id, List.append_assoc ..⟩

theorem entries_sortBy (network : Network) (profile : SiteProfile) :
    Entries network profile (entries network profile
      (NumericOrder.sortBy Vlan.id network.vlans.values)
      (NumericOrder.sortBy Port.id network.ports.values)) :=
  ⟨_, _, NumericOrder.sortBy_perm .., NumericOrder.pairwise_sortBy ..,
    NumericOrder.sortBy_perm .., NumericOrder.pairwise_sortBy .., rfl⟩

end AosCx

end SwitchDialects
