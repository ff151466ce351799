import SwitchDialects.Proofs.ProCurve.Keywords
import SwitchDialects.Proofs.ProCurve.Membership
import SwitchDialects.Network

/-!
# The membership that a ProCurve network holds

A ProCurve configuration fills the sets of the VLANs and the fields of the ports by the same
statements, and creates every record that a statement names. So both views hold one relation, with
this one difference: the sets keep every VLAN that lists a port untagged, and the port keeps the
first of them and the last. Which VLANs list a port is told from the lines in their blocks.
-/

namespace SwitchDialects

namespace ProCurve

open Text (foldedArgument?)

/-- Whether a line lists the port under the keyword. -/
def lists (keyword port line : Text) : Bool :=
  (foldedArgument? keyword line).any fun list => (NumberList.ports list).contains port

def Block.vlan? : Block → Option Text
  | .vlan id => some id
  | _ => Option.none

/-- The VLANs that list the port under the keyword, in the order of the lines that do so in their
blocks. -/
def Block.listedBy (keyword port : Text) : Block → List Text → List Text
  | _, [] => []
  | block, line :: rest =>
    (block.vlan?.filter fun _ => lists keyword port line).toList ++
      (block.read line).2.listedBy keyword port rest

def listedBy (keyword port text : Text) : List Text :=
  Block.none.listedBy keyword port (Text.significantLines text)

/-- What a network holds of membership if these VLANs, in this order, list each port. -/
structure Consistent (untagged tagged : Text → List Text) (network : Network) : Prop where
  untagged_by : ∀ port key, network.HasUntagged port key ↔ key ∈ untagged port
  tagged_by : ∀ port key, network.HasTagged port key ↔ key ∈ tagged port
  tagged_iff : ∀ port key, network.HasTagged port key ↔
    ∃ record, network.ports.get? port = some record ∧ key ∈ record.trunkVlans
  trunk_nodup : ∀ port record, network.ports.get? port = some record → record.trunkVlans.Nodup
  access_iff : ∀ port, (∃ record, network.ports.get? port = some record ∧
    record.accessVlan.isSome = true) ↔ ∃ key, network.HasUntagged port key
  native_iff : ∀ port, (∃ record, network.ports.get? port = some record ∧
    record.nativeVlan.isSome = true) ↔ ∃ key, network.HasUntagged port key
  /-- The native VLAN is that of the first statement that lists the port untagged. -/
  native_first : ∀ port, (network.ports.get? port).bind Port.nativeVlan = (untagged port).head?
  /-- The access VLAN is that of the last one. -/
  access_last : ∀ port, (network.ports.get? port).bind Port.accessVlan = (untagged port).getLast?
  untagged_member : ∀ port record key, network.ports.get? port = some record →
    record.nativeVlan = some key ∨ record.accessVlan = some key → network.HasUntagged port key
  port_record : ∀ port key, network.HasUntagged port key ∨ network.HasTagged port key →
    port ∈ network.ports.keys
  vlan_record : ∀ port record key, network.ports.get? port = some record →
    key ∈ record.trunkVlans ∨ record.accessVlan = some key ∨ record.nativeVlan = some key →
      key ∈ network.vlans.keys
  keyed : network.Keyed

theorem lists_iff {keyword port line : Text} : lists keyword port line = true ↔
    ∃ list, foldedArgument? keyword line = some list ∧ port ∈ NumberList.ports list := by
  rw [lists, Option.any_eq_true]
  simp only [List.contains_iff_mem]

theorem Block.vlan?_eq_some_iff {block : Block} {id : Text} :
    block.vlan? = some id ↔ block = .vlan id := by
  cases block <;> simp [vlan?]

/-- A statement that lists ports is read from a line with its keyword. -/
theorem PortKeyword.argument?_of_ofLine? {keyword line : Text} {make : List Text → VlanStatement}
    (hkeyword : PortKeyword keyword make) {ports : List Text}
    (h : VlanStatement.ofLine? line = some (make ports)) :
    ∃ list, foldedArgument? keyword line = some list ∧ NumberList.ports list = ports := by
  cases hkeyword with
  | tagged => simpa [VlanStatement.ofLine?] using h
  | untagged =>
    have hlist : foldedArgument? "tagged".toList line = none ∧
        ∃ list, foldedArgument? "untagged".toList line = some list ∧
          NumberList.ports list = ports := by
      simpa [VlanStatement.ofLine?] using h
    exact hlist.2

/-- An action that lists ports in the block of a VLAN is that of a line there with the keyword. -/
theorem PortKeyword.read_iff {keyword line : Text} {make : List Text → VlanStatement}
    (hkeyword : PortKeyword keyword make) {block : Block} {id : Text} {ports : List Text} :
    (block.read line).1 = some (.inVlan id (make ports)) ↔
      block = .vlan id ∧ ∃ list, foldedArgument? keyword line = some list ∧
        NumberList.ports list = ports := by
  constructor
  · intro h
    have hreads := h ▸ block.reads line
    generalize (block.read line).2 = next at hreads
    cases hreads with
    | inVlan hblock hstatement => exact ⟨hblock, hkeyword.argument?_of_ofLine? hstatement⟩
  · rintro ⟨rfl, list, hlist, rfl⟩
    rw [hkeyword.read hlist]

/-- An action has the VLAN of a list with the port exactly if its line has it. -/
theorem PortKeyword.bind_read {keyword port line : Text} {make : List Text → VlanStatement}
    (hkeyword : PortKeyword keyword make) {vlan? : Action → Option Text}
    (hvlan : ∀ a key, vlan? a = some key ↔ ∃ ports, a = .inVlan key (make ports) ∧ port ∈ ports)
    (block : Block) :
    (block.read line).1.bind vlan? = block.vlan?.filter fun _ => lists keyword port line := by
  ext key
  rw [Option.bind_eq_some_iff, Option.filter_eq_some_iff, Block.vlan?_eq_some_iff, lists_iff]
  simp only [hvlan]
  constructor
  · rintro ⟨a, ha, ports, rfl, hport⟩
    obtain ⟨hblock, list, hlist, rfl⟩ := hkeyword.read_iff.mp ha
    exact ⟨hblock, list, hlist, hport⟩
  · rintro ⟨hblock, list, hlist, hport⟩
    exact ⟨_, hkeyword.read_iff.mpr ⟨hblock, list, hlist, rfl⟩, _, rfl, hport⟩

theorem PortKeyword.filterMap_readAll {keyword port : Text} {make : List Text → VlanStatement}
    (hkeyword : PortKeyword keyword make) {vlan? : Action → Option Text}
    (hvlan : ∀ a key, vlan? a = some key ↔ ∃ ports, a = .inVlan key (make ports) ∧ port ∈ ports)
    (block : Block) (lines : List Text) :
    (block.readAll lines).1.filterMap vlan? = block.listedBy keyword port lines := by
  induction lines generalizing block with
  | nil => rfl
  | cons line rest ih =>
    rw [Block.readAll, Block.listedBy, List.filterMap_append, ih, ← hkeyword.bind_read hvlan]
    cases (block.read line).1 <;> rfl

theorem untaggedBy_actions (port text : Text) :
    untaggedBy port (actions text) = listedBy "untagged".toList port text :=
  PortKeyword.untagged.filterMap_readAll (fun _ _ => Action.untags?_eq_some_iff) _ _

theorem taggedBy_actions (port text : Text) :
    taggedBy port (actions text) = listedBy "tagged".toList port text :=
  PortKeyword.tagged.filterMap_readAll (fun _ _ => Action.tags?_eq_some_iff) _ _

theorem hasUntagged_iff {as : List Action} {port key : Text} :
    (replay start as).HasUntagged port key ↔ key ∈ untaggedBy port as := by
  constructor
  · rintro ⟨vlan, hvlan, hport⟩
    rw [← vlanAt_of_get? hvlan] at hport
    exact mem_untagged_vlanAt.mp hport
  · intro h
    exact ⟨_, get?_vlans_of_mem (keys_of_mem_untaggedBy h).2, mem_untagged_vlanAt.mpr h⟩

theorem hasTagged_iff {as : List Action} {port key : Text} :
    (replay start as).HasTagged port key ↔ key ∈ taggedBy port as := by
  constructor
  · rintro ⟨vlan, hvlan, hport⟩
    rw [← vlanAt_of_get? hvlan] at hport
    exact mem_tagged_vlanAt.mp hport
  · intro h
    exact ⟨_, get?_vlans_of_mem (keys_of_mem_taggedBy h).2, mem_tagged_vlanAt.mpr h⟩

/-- No action puts a VLAN on a trunk twice. -/
theorem Action.trunk_nodup_onPort (a : Action) (key : Text) {port : Port}
    (h : port.trunkVlans.Nodup) : (a.onPort key port).trunkVlans.Nodup := by
  cases a with
  | inVlan id statement =>
    rw [Action.onPort]
    rcases statement.onPort_cases id key port with hsame | htrunk | htake
    · rwa [hsame]
    · rw [htrunk]
      exact nodup_appendNew h id
    · rwa [htake]
  | inPort id statement =>
    by_cases hid : id = key
    · rwa [Action.onPort, if_pos hid, PortStatement.trunkVlans_apply]
    · rwa [Action.onPort, if_neg hid]
  | _ => exact h

/-- A port is listed untagged if it has a native VLAN, and if it has an access VLAN. -/
theorem exists_isSome_iff {as : List Action} {port : Text} {field : Port → Option Text}
    (hfield : ∀ record, (replay start as).ports.get? port = some record →
      ((field record).isSome = true ↔ untaggedBy port as ≠ [])) :
    (∃ record, (replay start as).ports.get? port = some record ∧ (field record).isSome = true) ↔
      ∃ key, (replay start as).HasUntagged port key := by
  constructor
  · rintro ⟨record, hrecord, hsome⟩
    obtain ⟨key, hkey⟩ := List.exists_mem_of_ne_nil _ ((hfield record hrecord).mp hsome)
    exact ⟨key, hasUntagged_iff.mpr hkey⟩
  · rintro ⟨key, hkey⟩
    have hlisted := hasUntagged_iff.mp hkey
    have hrecord := get?_ports_of_mem (keys_of_mem_untaggedBy hlisted).1
    exact ⟨_, hrecord, (hfield _ hrecord).mpr (List.ne_nil_of_mem hlisted)⟩

theorem nativeVlan_replay {as : List Action} {port : Text} {record : Port}
    (h : (replay start as).ports.get? port = some record) :
    record.nativeVlan = (untaggedBy port as).head? := by
  rw [← portAt_of_get? h, nativeVlan_portAt]

theorem accessVlan_replay {as : List Action} {port : Text} {record : Port}
    (h : (replay start as).ports.get? port = some record) :
    record.accessVlan = (untaggedBy port as).getLast? := by
  rw [← portAt_of_get? h, accessVlan_portAt]

theorem mem_trunkVlans_replay {as : List Action} {port key : Text} {record : Port}
    (h : (replay start as).ports.get? port = some record) :
    key ∈ record.trunkVlans ↔ key ∈ taggedBy port as := by
  rw [← portAt_of_get? h, mem_trunkVlans_portAt]

theorem nodup_trunkVlans_replay {as : List Action} {port : Text} {record : Port}
    (h : (replay start as).ports.get? port = some record) : record.trunkVlans.Nodup := by
  rw [← portAt_of_get? h, portAt_replay]
  exact Replay.foldl_keeps (P := fun r : Port => r.trunkVlans.Nodup)
    (fun _ a _ hr => a.trunk_nodup_onPort port hr) List.nodup_nil

/-- The native and the access VLAN of a port list it untagged. -/
theorem mem_untaggedBy_of_field {as : List Action} {port key : Text} {record : Port}
    (h : (replay start as).ports.get? port = some record)
    (hkey : record.nativeVlan = some key ∨ record.accessVlan = some key) :
    key ∈ untaggedBy port as := by
  rcases hkey with hkey | hkey
  · exact List.mem_of_head? ((nativeVlan_replay h).symm.trans hkey)
  · exact List.mem_of_getLast? ((accessVlan_replay h).symm.trans hkey)

/-- A port without a record has no field. -/
theorem bind_get?_ports {network : Network} {port : Text} {field : Port → Option Text}
    (hfield : field { id := port } = none) :
    (network.ports.get? port).bind field = field (portAt network port) := by
  rw [portAt]
  cases network.ports.get? port with
  | none => exact hfield.symm
  | some record => rfl

theorem consistent_replay (as : List Action) :
    Consistent (untaggedBy · as) (taggedBy · as) (replay start as) := by
  constructor
  case untagged_by => exact fun _ _ => hasUntagged_iff
  case tagged_by => exact fun _ _ => hasTagged_iff
  case tagged_iff =>
    intro port key
    rw [hasTagged_iff]
    constructor
    · intro h
      have hrecord := get?_ports_of_mem (keys_of_mem_taggedBy h).1
      exact ⟨_, hrecord, (mem_trunkVlans_replay hrecord).mpr h⟩
    · rintro ⟨record, hrecord, hkey⟩
      exact (mem_trunkVlans_replay hrecord).mp hkey
  case trunk_nodup => exact fun _ _ => nodup_trunkVlans_replay
  case access_iff =>
    intro port
    refine exists_isSome_iff fun record hrecord => ?_
    rw [accessVlan_replay hrecord, List.getLast?_isSome]
  case native_iff =>
    intro port
    refine exists_isSome_iff fun record hrecord => ?_
    rw [nativeVlan_replay hrecord, List.isSome_head?]
  case native_first => exact fun port => (bind_get?_ports rfl).trans (nativeVlan_portAt as port)
  case access_last => exact fun port => (bind_get?_ports rfl).trans (accessVlan_portAt as port)
  case untagged_member =>
    intro port record key hrecord hkey
    exact hasUntagged_iff.mpr (mem_untaggedBy_of_field hrecord hkey)
  case port_record =>
    rintro port key (huntagged | htagged)
    · exact (keys_of_mem_untaggedBy (hasUntagged_iff.mp huntagged)).1
    · exact (keys_of_mem_taggedBy (hasTagged_iff.mp htagged)).1
  case vlan_record =>
    rintro port record key hrecord (htrunk | haccess | hnative)
    · exact (keys_of_mem_taggedBy ((mem_trunkVlans_replay hrecord).mp htrunk)).2
    · exact (keys_of_mem_untaggedBy (mem_untaggedBy_of_field hrecord (Or.inr haccess))).2
    · exact (keys_of_mem_untaggedBy (mem_untaggedBy_of_field hrecord (Or.inl hnative))).2
  case keyed => exact keyed_replay as

/-- Whatever the text, the two views of membership that are read from it are consistent, and hold
what the lines in the blocks of VLANs list. -/
theorem membership_consistent (text : Text) :
    Consistent (listedBy "untagged".toList · text) (listedBy "tagged".toList · text)
      (read text) := by
  have h := consistent_replay (actions text)
  simp only [untaggedBy_actions, taggedBy_actions] at h
  rwa [read_eq_replay]

end ProCurve

end SwitchDialects
