import SwitchDialects.Proofs.Ios.Membership
import SwitchDialects.Proofs.ProCurve.Membership
import SwitchDialects.Proofs.ProCurve.Written
import SwitchDialects.Network

/-!
# Reading back what was written

A network that was read from an IOS configuration, written for ProCurve and read again has the same
VLANs with the same members, and the same ports. What the ProCurve texts cannot hold is lost on the
way: quotes inside a description and around the name of the device, and a VLAN is for voice exactly
if it is the one of the site.
-/

namespace SwitchDialects

open Text

/-- What a kept statement has become once it was written and read. -/
def KeptStatement.reread : KeptStatement → List KeptStatement
  | .description text => [.description (withoutQuotes text)]
  | .power enabled => [.power enabled]
  | .shutdown => [.shutdown, .power false]

namespace ProCurve

theorem Action.vlans_of_mem_vlanActions {profile : SiteProfile} {vlan : Vlan} {a : Action}
    (ha : a ∈ vlanActions profile vlan) : ∀ id ∈ a.vlans, id = vlan.id := by
  intro id hid
  rcases List.mem_cons.mp ha with rfl | ha
  · exact List.mem_singleton.mp hid
  · obtain ⟨statement, _, rfl⟩ := List.mem_map.mp ha
    cases statement with
    | tagged ports =>
      obtain ⟨_, _, rfl⟩ := List.mem_map.mp hid
      rfl
    | untagged ports =>
      obtain ⟨_, _, rfl⟩ := List.mem_map.mp hid
      rfl
    | _ => exact List.mem_singleton.mp hid

/-- The block of a VLAN creates one record. -/
theorem foldl_appendNew_vlanActions (profile : SiteProfile) (vlan : Vlan) (keys : List Text) :
    ((vlanActions profile vlan).flatMap Action.vlans).foldl appendNew keys =
      appendNew keys vlan.id := by
  rw [vlanActions, List.flatMap_cons, List.foldl_append]
  apply foldl_appendNew_of_subset
  intro id hid
  obtain ⟨a, ha, hid⟩ := List.mem_flatMap.mp hid
  have hblock : a ∈ vlanActions profile vlan := List.mem_cons_of_mem _ ha
  exact mem_appendNew.mpr (Or.inr (Action.vlans_of_mem_vlanActions hblock id hid))

theorem foldl_appendNew_vlans (profile : SiteProfile) (vlans : List Vlan) (keys : List Text) :
    ((vlans.flatMap (vlanActions profile)).flatMap Action.vlans).foldl appendNew keys =
      (vlans.map Vlan.id).foldl appendNew keys := by
  induction vlans generalizing keys with
  | nil => rfl
  | cons vlan vlans ih =>
    rw [List.flatMap_cons, List.flatMap_append, List.foldl_append, foldl_appendNew_vlanActions, ih]
    rfl

theorem mem_deviceActions {statement : DeviceStatement} {a : Action}
    (ha : a ∈ deviceActions statement) : ∃ s, a = .declare s := by
  obtain ⟨s, _, rfl⟩ := List.mem_map.mp ha
  exact ⟨s, rfl⟩

theorem mem_portActions {port : Port} {a : Action} (ha : a ∈ portActions port) :
    a = .openPort port.id ∨ ∃ kept ∈ port.kept, ∃ s ∈ keptStatements kept, a = .inPort port.id s := by
  rcases List.mem_cons.mp ha with rfl | ha
  · exact Or.inl rfl
  · obtain ⟨s, hs, rfl⟩ := List.mem_map.mp ha
    obtain ⟨kept, hkept, hs⟩ := List.mem_flatMap.mp hs
    exact Or.inr ⟨kept, hkept, s, hs, rfl⟩

theorem flatMap_vlans_device (device : List DeviceStatement) :
    (device.flatMap deviceActions).flatMap Action.vlans = [] := by
  rw [List.flatMap_eq_nil_iff]
  intro a ha
  obtain ⟨_, _, ha⟩ := List.mem_flatMap.mp ha
  obtain ⟨_, rfl⟩ := mem_deviceActions ha
  rfl

theorem flatMap_vlans_ports (ports : List Port) :
    (ports.flatMap portActions).flatMap Action.vlans = [] := by
  rw [List.flatMap_eq_nil_iff]
  intro a ha
  obtain ⟨_, _, ha⟩ := List.mem_flatMap.mp ha
  rcases mem_portActions ha with rfl | ⟨_, _, _, _, rfl⟩ <;> rfl

section

variable {network : Network} {profile : SiteProfile}

theorem vlans_keys_written (keyed : network.Keyed) :
    (replay start (writtenActions network profile)).vlans.keys = network.vlans.keys := by
  rw [vlans_keys_replay, writtenActions, List.flatMap_append, List.flatMap_append,
    flatMap_vlans_device, flatMap_vlans_ports, List.nil_append, List.append_nil,
    foldl_appendNew_vlans, OrderedMap.map_values_eq_keys keyed.vlans]
  exact foldl_appendNew_of_nodup network.vlans.distinct

/-- The statements in the block of a VLAN make the VLAN of a new one. -/
theorem foldl_vlanStatements (profile : SiteProfile) (vlan : Vlan) :
    (vlanStatements profile vlan).foldl (fun v s => s.onVlan v) { id := vlan.id } =
      { vlan with voice := vlan.isVoice profile } := by
  have hname (v : Vlan) : (vlan.name.map VlanStatement.name).toList.foldl
      (fun v s => s.onVlan v) v = { v with name := vlan.name.or v.name } := by
    cases vlan.name <;> rfl
  have hlisting {make : List Text → VlanStatement} (hnil : ∀ v, (make []).onVlan v = v)
      (ports : OrderedSet) (v : Vlan) :
      (listing make ports).foldl (fun v s => s.onVlan v) v = (make ports.toList).onVlan v := by
    rw [listing]
    split
    · rename_i hempty
      rw [hempty]
      exact (hnil v).symm
    · rfl
  have hvoice (v : Vlan) : (if vlan.isVoice profile then [VlanStatement.voice] else []).foldl
      (fun v s => s.onVlan v) v = { v with voice := vlan.isVoice profile || v.voice } := by
    cases vlan.isVoice profile <;> rfl
  have haddress (v : Vlan) : (vlan.address.map VlanStatement.address).toList.foldl
      (fun v s => s.onVlan v) v = { v with address := vlan.address.or v.address } := by
    cases vlan.address <;> rfl
  rw [vlanStatements, List.foldl_append, List.foldl_append, List.foldl_append, List.foldl_append,
    hname, hlisting (fun _ => rfl), hlisting (fun _ => rfl), hvoice, haddress]
  simp only [VlanStatement.onVlan, Option.or_none, Bool.or_false,
    OrderedSet.insertAll_empty_toList]

theorem foldl_onVlan_vlanActions (profile : SiteProfile) (vlan : Vlan) (v : Vlan) :
    (vlanActions profile vlan).foldl (fun v a => a.onVlan vlan.id v) v =
      (vlanStatements profile vlan).foldl (fun v s => s.onVlan v) v := by
  rw [vlanActions, List.foldl_cons, List.foldl_map]
  simp only [Action.onVlan, if_true]

/-- The block of one VLAN leaves every other one as it is. -/
theorem foldl_onVlan_other {vlan : Vlan} {key : Text} (h : vlan.id ≠ key) (v : Vlan) :
    (vlanActions profile vlan).foldl (fun v a => a.onVlan key v) v = v := by
  refine Replay.foldl_unchanged (f := fun v => v) (fun v a ha => ?_) v
  rcases List.mem_cons.mp ha with rfl | ha
  · rfl
  · obtain ⟨statement, _, rfl⟩ := List.mem_map.mp ha
    simp [Action.onVlan, h]

theorem vlanAt_written (keyed : network.Keyed) {vlan : Vlan} (hvlan : vlan ∈ network.vlans.values) :
    vlanAt (replay start (writtenActions network profile)) vlan.id =
      { vlan with voice := vlan.isVoice profile } := by
  have hdevice (v : Vlan) : (network.device.flatMap deviceActions).foldl
      (fun v a => a.onVlan vlan.id v) v = v := by
    refine Replay.foldl_unchanged (f := fun v => v) (fun v a ha => ?_) v
    obtain ⟨_, _, ha⟩ := List.mem_flatMap.mp ha
    obtain ⟨_, rfl⟩ := mem_deviceActions ha
    rfl
  have hports (v : Vlan) : (network.ports.values.flatMap portActions).foldl
      (fun v a => a.onVlan vlan.id v) v = v := by
    refine Replay.foldl_unchanged (f := fun v => v) (fun v a ha => ?_) v
    obtain ⟨_, _, ha⟩ := List.mem_flatMap.mp ha
    rcases mem_portActions ha with rfl | ⟨_, _, _, _, rfl⟩ <;> rfl
  have hothers : ∀ other ∈ network.vlans.values, other ≠ vlan → ∀ v : Vlan,
      (vlanActions profile other).foldl (fun v a => a.onVlan vlan.id v) v = v := by
    intro other hother hne v
    exact foldl_onVlan_other (fun e => hne (OrderedMap.eq_of_key_eq keyed.vlans hother hvlan e)) v
  rw [vlanAt_replay, writtenActions, List.foldl_append, List.foldl_append, hdevice, hports,
    Replay.foldl_flatMap_of_single hvlan (OrderedMap.nodup_values keyed.vlans) hothers,
    foldl_onVlan_vlanActions]
  exact foldl_vlanStatements profile vlan

/-- The VLANs that are read back. -/
theorem vlans_written (keyed : network.Keyed) :
    (replay start (writtenActions network profile)).vlans =
      network.vlans.mapValues fun vlan => { vlan with voice := vlan.isVoice profile } := by
  apply OrderedMap.ext_get?
  · rw [vlans_keys_written keyed, OrderedMap.keys_mapValues]
  · intro key hkey
    rw [get?_vlans_of_mem hkey]
    rw [vlans_keys_written keyed] at hkey
    obtain ⟨vlan, hvlan⟩ := OrderedMap.exists_get?_of_mem hkey
    have hid := keyed.vlans key vlan hvlan
    rw [OrderedMap.get?_mapValues, hvlan, ← hid,
      vlanAt_written keyed (OrderedMap.mem_values_iff.mpr ⟨key, hvlan⟩)]
    rfl

/-- The ports that a written VLAN names are its members. -/
theorem Action.ports_of_mem_vlanActions {vlan : Vlan} {a : Action}
    (ha : a ∈ vlanActions profile vlan) :
    ∀ port ∈ a.ports, port ∈ vlan.untagged ∨ port ∈ vlan.tagged := by
  have hlisting {make : List Text → VlanStatement} {ports : OrderedSet} {s : VlanStatement}
      (hs : s ∈ listing make ports) : s = make ports.toList := by
    rw [listing] at hs
    split at hs
    · cases hs
    · exact List.mem_singleton.mp hs
  intro port hport
  rcases List.mem_cons.mp ha with rfl | ha
  · cases hport
  · obtain ⟨s, hs, rfl⟩ := List.mem_map.mp ha
    simp only [vlanStatements, List.append_assoc, List.mem_append, Option.mem_toList,
      Option.map_eq_some_iff] at hs
    rcases hs with ⟨_, _, rfl⟩ | hs | hs | hs | ⟨_, _, rfl⟩
    · cases hport
    · rw [hlisting hs] at hport
      exact Or.inl hport
    · rw [hlisting hs] at hport
      exact Or.inr hport
    · split at hs
      · rw [List.mem_singleton.mp hs] at hport
        cases hport
      · cases hs
    · cases hport

/-- The ports that are read back, if every member of a VLAN is a port of the network. -/
theorem mem_ports_keys_written (keyed : network.Keyed)
    (members : ∀ vlan ∈ network.vlans.values, ∀ port, port ∈ vlan.untagged ∨ port ∈ vlan.tagged →
      port ∈ network.ports.keys) {id : Text} :
    id ∈ (replay start (writtenActions network profile)).ports.keys ↔ id ∈ network.ports.keys := by
  rw [mem_ports_keys_replay]
  constructor
  · rintro ⟨a, ha, hid⟩
    rw [writtenActions, List.mem_append, List.mem_append, List.mem_flatMap, List.mem_flatMap,
      List.mem_flatMap] at ha
    rcases ha with (⟨_, _, ha⟩ | ⟨vlan, hvlan, ha⟩) | ⟨port, hport, ha⟩
    · obtain ⟨_, rfl⟩ := mem_deviceActions ha
      cases hid
    · exact members vlan hvlan id (Action.ports_of_mem_vlanActions ha id hid)
    · have hsame : id = port.id := by
        rcases mem_portActions ha with rfl | ⟨_, _, _, _, rfl⟩ <;> exact List.mem_singleton.mp hid
      rw [hsame, ← OrderedMap.map_values_eq_keys keyed.ports]
      exact List.mem_map_of_mem hport
  · intro hid
    obtain ⟨port, hport⟩ := OrderedMap.exists_get?_of_mem hid
    have hmem : port ∈ network.ports.values := OrderedMap.mem_values_iff.mpr ⟨id, hport⟩
    refine ⟨.openPort port.id, ?_, List.mem_singleton.mpr (keyed.ports id port hport).symm⟩
    exact List.mem_append_right _ (List.mem_flatMap.mpr ⟨port, hmem, List.mem_cons_self⟩)

def PortStatement.keeps : PortStatement → List KeptStatement
  | .description text => [.description text]
  | .power enabled => [.power enabled]
  | .disable => [.shutdown]
  | _ => []

theorem PortStatement.kept_apply (statement : PortStatement) (port : Port) :
    (statement.apply port).kept = port.kept ++ statement.keeps := by
  cases statement <;> simp [apply, keeps, Port.keep]

theorem VlanStatement.kept_onPort (statement : VlanStatement) (vlan key : Text) (port : Port) :
    (statement.onPort vlan key port).kept = port.kept := by
  rcases statement.onPort_cases vlan key port with h | h | h <;> rw [h] <;> rfl

theorem flatMap_keeps_keptStatements (kept : KeptStatement) :
    (keptStatements kept).flatMap PortStatement.keeps = kept.reread := by
  cases kept <;> rfl

theorem foldl_onPort_portActions (port record : Port) :
    (portActions port).foldl (fun r a => a.onPort port.id r) record =
      (port.kept.flatMap keptStatements).foldl (fun r s => s.apply r) record := by
  rw [portActions, List.foldl_cons, List.foldl_map]
  simp only [Action.onPort, if_true]

/-- The block of one port leaves every other one as it is. -/
theorem foldl_onPort_other {port : Port} {key : Text} (h : port.id ≠ key) (record : Port) :
    (portActions port).foldl (fun r a => a.onPort key r) record = record := by
  refine Replay.foldl_unchanged (f := fun r => r) (fun r a ha => ?_) record
  rcases mem_portActions ha with rfl | ⟨_, _, s, _, rfl⟩
  · rfl
  · simp [Action.onPort, h]

/-- The kept statements of a port that is read back. -/
theorem kept_written (keyed : network.Keyed) {port : Port} (hport : port ∈ network.ports.values) :
    (portAt (replay start (writtenActions network profile)) port.id).kept =
      port.kept.flatMap KeptStatement.reread := by
  have hdevice (r : Port) : ((network.device.flatMap deviceActions).foldl
      (fun r a => a.onPort port.id r) r).kept = r.kept := by
    refine Replay.foldl_unchanged (f := Port.kept) (fun r a ha => ?_) r
    obtain ⟨_, _, ha⟩ := List.mem_flatMap.mp ha
    obtain ⟨_, rfl⟩ := mem_deviceActions ha
    rfl
  have hvlans (r : Port) : ((network.vlans.values.flatMap (vlanActions profile)).foldl
      (fun r a => a.onPort port.id r) r).kept = r.kept := by
    refine Replay.foldl_unchanged (f := Port.kept) (fun r a ha => ?_) r
    obtain ⟨vlan, _, ha⟩ := List.mem_flatMap.mp ha
    rcases List.mem_cons.mp ha with rfl | ha
    · rfl
    · obtain ⟨s, _, rfl⟩ := List.mem_map.mp ha
      exact s.kept_onPort _ _ r
  have hothers : ∀ other ∈ network.ports.values, other ≠ port → ∀ r : Port,
      (portActions other).foldl (fun r a => a.onPort port.id r) r = r := by
    intro other hother hne r
    exact foldl_onPort_other (fun e => hne (OrderedMap.eq_of_key_eq keyed.ports hother hport e)) r
  rw [portAt_replay, writtenActions, List.foldl_append, List.foldl_append,
    Replay.foldl_flatMap_of_single hport (OrderedMap.nodup_values keyed.ports) hothers,
    foldl_onPort_portActions,
    Replay.foldl_append (f := Port.kept) (fun r s => PortStatement.kept_apply s r), hvlans,
    hdevice, List.flatMap_assoc]
  simp only [flatMap_keeps_keptStatements]
  rfl

theorem device_written :
    (replay start (writtenActions network profile)).device = network.device.filterMap reread := by
  have hvlans : (network.vlans.values.flatMap (vlanActions profile)).filterMap Action.declared? =
      [] := by
    rw [List.filterMap_eq_nil_iff]
    intro a ha
    obtain ⟨vlan, _, ha⟩ := List.mem_flatMap.mp ha
    rcases List.mem_cons.mp ha with rfl | ha
    · rfl
    · obtain ⟨s, _, rfl⟩ := List.mem_map.mp ha
      rfl
  have hports : (network.ports.values.flatMap portActions).filterMap Action.declared? = [] := by
    rw [List.filterMap_eq_nil_iff]
    intro a ha
    obtain ⟨_, _, ha⟩ := List.mem_flatMap.mp ha
    rcases mem_portActions ha with rfl | ⟨_, _, _, _, rfl⟩ <;> rfl
  have hdevice : (network.device.flatMap deviceActions).filterMap Action.declared? =
      network.device.filterMap reread := by
    rw [List.filterMap_flatMap, List.filterMap_eq_flatMap_toList]
    refine List.flatMap_congr fun statement _ => ?_
    rw [deviceActions]
    cases reread statement <;> rfl
  rw [device_replay, writtenActions, List.filterMap_append, List.filterMap_append, hdevice, hvlans,
    hports, List.append_nil, List.append_nil]
  rfl

/-- The last name of the device is read back without the quotes around it. -/
theorem hostname?_written :
    (replay start (writtenActions network profile)).hostname? = network.hostname?.map unquote := by
  rw [Network.hostname?, device_written, Network.hostname?, ← List.filterMap_reverse,
    ← List.head?_filterMap, List.filterMap_filterMap, List.head?_filterMap, List.map_findSome?]
  congr 1
  funext statement
  cases statement <;> rfl

/-- The first location is read back without its quotes, between two new ones. -/
theorem location?_written :
    (replay start (writtenActions network profile)).location? =
      network.location?.map fun text => quoted (withoutQuotes text) := by
  rw [Network.location?, device_written, Network.location?, ← List.head?_filterMap,
    List.filterMap_filterMap, List.head?_filterMap, List.map_findSome?]
  congr 1
  funext statement
  cases statement <;> rfl

end

end ProCurve

namespace Ios

variable {as : List Action}

/-- What was read can be written without loss, if the numbers of all ports have 32 bits. -/
theorem writable_replay (h : Ordered as) (plain : ∀ a ∈ as, a.Plain)
    (fits : ∀ id ∈ (replay start as).ports.keys, Decimal.value id < Decimal.limit32) :
    ProCurve.WritableNetwork (replay start as) := by
  have keyed := keyed_replay h plain
  have hport : ∀ id ∈ (replay start as).ports.keys, NumberList.IsPort id := fun id hid =>
    ⟨Decimal.value id, fits id hid, ((isPortId_of_mem_keys h plain hid).2 (fits id hid)).symm⟩
  constructor
  · intro statement hs
    rw [device_replay] at hs
    obtain ⟨a, ha, hs⟩ := List.mem_filterMap.mp hs
    cases a with
    | declare s => exact Option.some.inj hs ▸ plain _ ha
    | _ => cases hs
  · intro vlan hvlan
    obtain ⟨key, hkey⟩ := OrderedMap.mem_values_iff.mp hvlan
    have hplain := plainVlan_replay plain hkey
    have hopen := mem_vlans_keys_replay.mp (OrderedMap.mem_keys_of_get? hkey)
    exact
      { id := hplain.id ▸ plain _ hopen
        name := hplain.name
        address := hplain.address
        untagged := fun port hp => hport port (members_replay h vlan hvlan port (Or.inl hp))
        tagged := fun port hp => hport port (members_replay h vlan hvlan port (Or.inr hp)) }
  · intro port hmem
    obtain ⟨key, hkey⟩ := OrderedMap.mem_values_iff.mp hmem
    have hid := isPortId_of_mem_keys h plain (OrderedMap.mem_keys_of_get? hkey)
    refine ⟨keyed.ports key port hkey ▸ hid.1, ?_⟩
    rw [get?_ports_replay h] at hkey
    split at hkey
    · cases hkey
      exact plain_kept_foldl (fun s hs => plain _ (mem_statementsOf.mp hs)) (by simp)
    · cases hkey

theorem writable_read (text : Text)
    (fits : ∀ id ∈ (read text).ports.keys, Decimal.value id < Decimal.limit32) :
    ProCurve.WritableNetwork (read text) := by
  rw [read_eq_replay] at fits ⊢
  exact writable_replay (ordered_actions text) (fun _ => plain_actions) fits

end Ios

/-- What one network, written for ProCurve and read again, keeps of another. -/
structure ReadBack (profile : SiteProfile) (network again : Network) : Prop where
  /-- The same VLANs in the same order, each with the same members, but for the voice. -/
  vlans : again.vlans = network.vlans.mapValues fun vlan =>
    { vlan with voice := vlan.id == profile.voiceVlan }
  ports : ∀ id, id ∈ again.ports.keys ↔ id ∈ network.ports.keys
  kept : ∀ id port, network.ports.get? id = some port →
    ∃ port', again.ports.get? id = some port' ∧ port'.kept = port.kept.flatMap KeptStatement.reread
  hostname : again.hostname? = network.hostname?.map unquote
  location : again.location? = network.location?.map fun text => quoted (withoutQuotes text)

/-- What is read back of an IOS network is what the actions of its text for ProCurve make. -/
theorem read_write_eq_replay (text : Text) (profile : SiteProfile)
    (fits : ∀ id ∈ (Ios.read text).ports.keys, Decimal.value id < Decimal.limit32) :
    ProCurve.read (ProCurve.write (Ios.read text) profile) =
      ProCurve.replay ProCurve.start (ProCurve.writtenActions (Ios.read text) profile) := by
  rw [ProCurve.read_eq_replay, ProCurve.actions_write (Ios.writable_read text fits)]

/-- Writing an IOS configuration for ProCurve and reading it loses nothing that can be written. -/
theorem proCurve_reads_back (text : Text) (profile : SiteProfile)
    (fits : ∀ id ∈ (Ios.read text).ports.keys, Decimal.value id < Decimal.limit32) :
    ReadBack profile (Ios.read text) (ProCurve.read (ProCurve.write (Ios.read text) profile)) := by
  rw [read_write_eq_replay text profile fits]
  have keyed := Ios.keyed_read text
  have hports (id : Text) : id ∈ (ProCurve.replay ProCurve.start
      (ProCurve.writtenActions (Ios.read text) profile)).ports.keys ↔
        id ∈ (Ios.read text).ports.keys :=
    ProCurve.mem_ports_keys_written keyed (Ios.members_read text)
  constructor
  · rw [ProCurve.vlans_written keyed]
    -- no VLAN of an IOS configuration says that it is for voice
    apply OrderedMap.ext_get?
    · simp
    · intro key _
      rw [OrderedMap.get?_mapValues, OrderedMap.get?_mapValues]
      refine Option.map_congr fun vlan hvlan => ?_
      rw [Ios.read_eq_replay] at hvlan
      rw [Vlan.isVoice, (Ios.plainVlan_replay (fun _ => Ios.plain_actions) hvlan).voice,
        Bool.false_or]
  · exact hports
  · intro id port hport
    have hid := (hports id).mpr (OrderedMap.mem_keys_of_get? hport)
    refine ⟨_, ProCurve.get?_ports_of_mem hid, ?_⟩
    rw [← keyed.ports id port hport]
    exact ProCurve.kept_written keyed (OrderedMap.mem_values_iff.mpr ⟨id, hport⟩)
  · exact ProCurve.hostname?_written
  · exact ProCurve.location?_written

def branchOffice : Text :=
  "vlan 10\n name \"staff\"\nvlan 901\ninterface Gi1/02\n description \"desk\" exit\n".toList ++
    " switchport access vlan 10\n switchport voice vlan 901\n shutdown".toList

theorem branchOffice_reads_back :
    (∀ id ∈ (Ios.read branchOffice).ports.keys, Decimal.value id < Decimal.limit32) ∧
      ReadBack .default (Ios.read branchOffice)
        (ProCurve.read (ProCurve.write (Ios.read branchOffice) .default)) := by
  have fits : ∀ id ∈ (Ios.read branchOffice).ports.keys,
      Decimal.value id < Decimal.limit32 := by decide +kernel
  exact ⟨fits, proCurve_reads_back branchOffice .default fits⟩

end SwitchDialects
