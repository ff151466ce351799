import SwitchDialects.Proofs.ProCurve.Action
import SwitchDialects.Proofs.Replay
import SwitchDialects.Network

/-!
# Membership read from a ProCurve configuration

Every membership comes from a statement that lists the port in the block of a VLAN. The VLANs that
list a port untagged, in order, give all there is to know: the first is its native VLAN, the last its
access VLAN, and each of them has it in its set. Tagged lists and trunk VLANs are the same relation.
-/

namespace SwitchDialects.ProCurve

/-- The VLAN of an action that lists the port untagged. -/
def Action.untags? (port : Text) : Action → Option Text
  | .inVlan vlan (.untagged ports) => if ports.contains port then some vlan else none
  | _ => none

def Action.tags? (port : Text) : Action → Option Text
  | .inVlan vlan (.tagged ports) => if ports.contains port then some vlan else none
  | _ => none

/-- The VLANs that list the port untagged, in order. -/
def untaggedBy (port : Text) (as : List Action) : List Text := as.filterMap (Action.untags? port)

def taggedBy (port : Text) (as : List Action) : List Text := as.filterMap (Action.tags? port)

theorem PortStatement.accessVlan_apply (statement : PortStatement) (port : Port) :
    (statement.apply port).accessVlan = port.accessVlan := by
  cases statement <;> rfl

theorem PortStatement.nativeVlan_apply (statement : PortStatement) (port : Port) :
    (statement.apply port).nativeVlan = port.nativeVlan := by
  cases statement <;> rfl

theorem PortStatement.trunkVlans_apply (statement : PortStatement) (port : Port) :
    (statement.apply port).trunkVlans = port.trunkVlans := by
  cases statement <;> rfl

theorem Action.accessVlan_onPort (a : Action) (key : Text) (port : Port) :
    (a.onPort key port).accessVlan = (a.untags? key).or port.accessVlan := by
  cases a with
  | inVlan id statement =>
    cases statement with
    | tagged ports => by_cases h : key ∈ ports <;> simp [onPort, untags?, VlanStatement.onPort, h,
        Port.addTrunkVlan]
    | untagged ports => by_cases h : key ∈ ports <;> simp [onPort, untags?, VlanStatement.onPort, h,
        takeUntagged]
    | _ => rfl
  | inPort id statement =>
    by_cases h : id = key <;> simp [onPort, untags?, h, PortStatement.accessVlan_apply]
  | _ => rfl

theorem Action.nativeVlan_onPort (a : Action) (key : Text) (port : Port) :
    (a.onPort key port).nativeVlan = port.nativeVlan.or (a.untags? key) := by
  cases a with
  | inVlan id statement =>
    cases statement with
    | tagged ports => by_cases h : key ∈ ports <;> simp [onPort, untags?, VlanStatement.onPort, h,
        Port.addTrunkVlan]
    | untagged ports => by_cases h : key ∈ ports <;> simp [onPort, untags?, VlanStatement.onPort, h,
        takeUntagged]
    | _ => simp [onPort, untags?, VlanStatement.onPort]
  | inPort id statement =>
    by_cases h : id = key <;> simp [onPort, untags?, h, PortStatement.nativeVlan_apply]
  | _ => simp [onPort, untags?]

theorem Action.mem_trunkVlans_onPort (a : Action) (key : Text) (port : Port) (vlan : Text) :
    vlan ∈ (a.onPort key port).trunkVlans ↔
      vlan ∈ port.trunkVlans ∨ a.tags? key = some vlan := by
  cases a with
  | inVlan id statement =>
    cases statement with
    | tagged ports => by_cases h : key ∈ ports <;> simp [onPort, tags?, VlanStatement.onPort, h,
        Port.addTrunkVlan, mem_appendNew, eq_comm]
    | untagged ports => by_cases h : key ∈ ports <;> simp [onPort, tags?, VlanStatement.onPort, h,
        takeUntagged]
    | _ => simp [onPort, tags?, VlanStatement.onPort]
  | inPort id statement =>
    by_cases h : id = key <;> simp [onPort, tags?, h, PortStatement.trunkVlans_apply]
  | _ => simp [onPort, tags?]

theorem Action.mem_untagged_onVlan (a : Action) (key : Text) (vlan : Vlan) (port : Text) :
    port ∈ (a.onVlan key vlan).untagged ↔ port ∈ vlan.untagged ∨ a.untags? port = some key := by
  cases a with
  | inVlan id statement =>
    by_cases hid : id = key
    · cases statement <;> simp [onVlan, untags?, hid, VlanStatement.onVlan,
        OrderedSet.mem_insertAll]
    · cases statement <;> simp [onVlan, untags?, hid]
  | _ => simp [onVlan, untags?]

theorem Action.mem_tagged_onVlan (a : Action) (key : Text) (vlan : Vlan) (port : Text) :
    port ∈ (a.onVlan key vlan).tagged ↔ port ∈ vlan.tagged ∨ a.tags? port = some key := by
  cases a with
  | inVlan id statement =>
    by_cases hid : id = key
    · cases statement <;> simp [onVlan, tags?, hid, VlanStatement.onVlan,
        OrderedSet.mem_insertAll]
    · cases statement <;> simp [onVlan, tags?, hid]
  | _ => simp [onVlan, tags?]

theorem accessVlan_portAt (as : List Action) (port : Text) :
    (portAt (replay start as) port).accessVlan = (untaggedBy port as).getLast? := by
  rw [portAt_replay, Replay.foldl_overwrite (f := Port.accessVlan)
    (fun r a _ => a.accessVlan_onPort port r), untaggedBy]
  exact Option.or_none

theorem nativeVlan_portAt (as : List Action) (port : Text) :
    (portAt (replay start as) port).nativeVlan = (untaggedBy port as).head? := by
  rw [portAt_replay, Replay.foldl_keepFirst (f := Port.nativeVlan)
    (fun r a => a.nativeVlan_onPort port r), untaggedBy]
  exact Option.none_or

theorem mem_trunkVlans_portAt {as : List Action} {port vlan : Text} :
    vlan ∈ (portAt (replay start as) port).trunkVlans ↔ vlan ∈ taggedBy port as := by
  rw [portAt_replay, Replay.foldl_collect (P := fun r : Port => vlan ∈ r.trunkVlans)
    (fun r a => a.mem_trunkVlans_onPort port r vlan), taggedBy, List.mem_filterMap]
  exact or_iff_right List.not_mem_nil

theorem mem_untagged_vlanAt {as : List Action} {port key : Text} :
    port ∈ (vlanAt (replay start as) key).untagged ↔ key ∈ untaggedBy port as := by
  rw [vlanAt_replay, Replay.foldl_collect (P := fun r : Vlan => port ∈ r.untagged)
    (fun r a => a.mem_untagged_onVlan key r port), untaggedBy, List.mem_filterMap]
  exact or_iff_right (OrderedSet.notMem_empty port)

theorem mem_tagged_vlanAt {as : List Action} {port key : Text} :
    port ∈ (vlanAt (replay start as) key).tagged ↔ key ∈ taggedBy port as := by
  rw [vlanAt_replay, Replay.foldl_collect (P := fun r : Vlan => port ∈ r.tagged)
    (fun r a => a.mem_tagged_onVlan key r port), taggedBy, List.mem_filterMap]
  exact or_iff_right (OrderedSet.notMem_empty port)

theorem mem_ports_keys_replay {as : List Action} {port : Text} :
    port ∈ (replay start as).ports.keys ↔ ∃ a ∈ as, port ∈ a.ports := by
  rw [ports_keys_replay, mem_foldl_appendNew, List.mem_flatMap]
  exact or_iff_right List.not_mem_nil

theorem mem_vlans_keys_replay {as : List Action} {key : Text} :
    key ∈ (replay start as).vlans.keys ↔ ∃ a ∈ as, key ∈ a.vlans := by
  rw [vlans_keys_replay, mem_foldl_appendNew, List.mem_flatMap]
  exact or_iff_right List.not_mem_nil

theorem VlanStatement.id_onVlan (statement : VlanStatement) (vlan : Vlan) :
    (statement.onVlan vlan).id = vlan.id := by
  cases statement <;> rfl

theorem VlanStatement.id_onPort (statement : VlanStatement) (vlan key : Text) (port : Port) :
    (statement.onPort vlan key port).id = port.id := by
  rcases statement.onPort_cases vlan key port with h | h | h <;> rw [h] <;> rfl

theorem PortStatement.id_apply (statement : PortStatement) (port : Port) :
    (statement.apply port).id = port.id := by
  cases statement <;> rfl

theorem Action.id_onVlan (a : Action) (key : Text) (vlan : Vlan) :
    (a.onVlan key vlan).id = vlan.id := by
  cases a with
  | inVlan id statement =>
    by_cases h : id = key <;> simp [onVlan, h, VlanStatement.id_onVlan]
  | _ => rfl

theorem Action.id_onPort (a : Action) (key : Text) (port : Port) :
    (a.onPort key port).id = port.id := by
  cases a with
  | inVlan id statement => exact statement.id_onPort id key port
  | inPort id statement => by_cases h : id = key <;> simp [onPort, h, PortStatement.id_apply]
  | _ => rfl

/-- Every record bears the identifier that it is found under. -/
theorem keyed_replay (as : List Action) : (replay start as).Keyed where
  vlans key vlan hvlan := by
    rw [← vlanAt_of_get? hvlan, vlanAt_replay]
    exact Replay.foldl_unchanged (f := Vlan.id) (fun v a _ => a.id_onVlan key v) _
  ports key port hport := by
    rw [← portAt_of_get? hport, portAt_replay]
    exact Replay.foldl_unchanged (f := Port.id) (fun r a _ => a.id_onPort key r) _

theorem keyed_read (text : Text) : (read text).Keyed := by
  rw [read_eq_replay]
  exact keyed_replay (actions text)

theorem Action.untags?_eq_some_iff {a : Action} {port key : Text} :
    a.untags? port = some key ↔ ∃ ports, a = .inVlan key (.untagged ports) ∧ port ∈ ports := by
  cases a with
  | inVlan id statement => cases statement <;> simp [untags?, and_comm, and_assoc]
  | _ => simp [untags?]

theorem Action.tags?_eq_some_iff {a : Action} {port key : Text} :
    a.tags? port = some key ↔ ∃ ports, a = .inVlan key (.tagged ports) ∧ port ∈ ports := by
  cases a with
  | inVlan id statement => cases statement <;> simp [tags?, and_comm, and_assoc]
  | _ => simp [tags?]

theorem mem_untaggedBy {port key : Text} {as : List Action} :
    key ∈ untaggedBy port as ↔ ∃ ports, .inVlan key (.untagged ports) ∈ as ∧ port ∈ ports := by
  simp only [untaggedBy, List.mem_filterMap, Action.untags?_eq_some_iff]
  constructor
  · rintro ⟨a, ha, ports, rfl, hp⟩
    exact ⟨ports, ha, hp⟩
  · rintro ⟨ports, ha, hp⟩
    exact ⟨_, ha, ports, rfl, hp⟩

theorem mem_taggedBy {port key : Text} {as : List Action} :
    key ∈ taggedBy port as ↔ ∃ ports, .inVlan key (.tagged ports) ∈ as ∧ port ∈ ports := by
  simp only [taggedBy, List.mem_filterMap, Action.tags?_eq_some_iff]
  constructor
  · rintro ⟨a, ha, ports, rfl, hp⟩
    exact ⟨ports, ha, hp⟩
  · rintro ⟨ports, ha, hp⟩
    exact ⟨_, ha, ports, rfl, hp⟩

/-- A port that is listed untagged has a record, and so has the VLAN that lists it. -/
theorem keys_of_mem_untaggedBy {port key : Text} {as : List Action} (h : key ∈ untaggedBy port as) :
    port ∈ (replay start as).ports.keys ∧ key ∈ (replay start as).vlans.keys := by
  obtain ⟨ports, ha, hp⟩ := mem_untaggedBy.mp h
  constructor
  · exact mem_ports_keys_replay.mpr ⟨_, ha, hp⟩
  · exact mem_vlans_keys_replay.mpr ⟨_, ha, List.mem_map.mpr ⟨port, hp, rfl⟩⟩

theorem keys_of_mem_taggedBy {port key : Text} {as : List Action} (h : key ∈ taggedBy port as) :
    port ∈ (replay start as).ports.keys ∧ key ∈ (replay start as).vlans.keys := by
  obtain ⟨ports, ha, hp⟩ := mem_taggedBy.mp h
  constructor
  · exact mem_ports_keys_replay.mpr ⟨_, ha, hp⟩
  · exact mem_vlans_keys_replay.mpr ⟨_, ha, List.mem_map.mpr ⟨port, hp, rfl⟩⟩

end SwitchDialects.ProCurve
