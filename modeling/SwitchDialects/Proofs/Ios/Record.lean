import SwitchDialects.Proofs.Ios.Action

/-!
# Records of an IOS configuration

The record of a port is what its own statements make of a new port, in their order. The record of a
VLAN changes only after its header has been read, by the statements in its blocks and by those that
make a port a member. Keys are the headers that were read.
-/

namespace SwitchDialects

/-- A VLAN with the ports taken out of its sets. -/
def Vlan.withoutMembers (vlan : Vlan) : Vlan :=
  { vlan with untagged := .empty, tagged := .empty }

end SwitchDialects

namespace SwitchDialects.Ios

/-- The statements about one port, in order. -/
def statementsOf (port : Text) (as : List Action) : List PortStatement :=
  as.filterMap fun
    | .inPort id statement => if id = port then some statement else none
    | _ => none

theorem mem_statementsOf {port : Text} {as : List Action} {statement : PortStatement} :
    statement ∈ statementsOf port as ↔ .inPort port statement ∈ as := by
  rw [statementsOf, List.mem_filterMap]
  constructor
  · rintro ⟨a, ha, hs⟩
    cases a with
    | inPort id s =>
      by_cases hid : id = port
      · have hs' : s = statement := by simpa [hid] using hs
        exact hid ▸ hs' ▸ ha
      · simp [hid] at hs
    | _ => cases hs
  · intro h
    exact ⟨_, h, by simp⟩

theorem statementsOf_concat (port : Text) (as : List Action) (a : Action) :
    statementsOf port (as ++ [a]) = statementsOf port as ++ statementsOf port [a] :=
  List.filterMap_append

theorem foldl_addTrunkVlan (port : Port) (vlans : List Text) :
    vlans.foldl Port.addTrunkVlan port =
      { port with trunkVlans := vlans.foldl appendNew port.trunkVlans } := by
  induction vlans generalizing port with
  | nil => rfl
  | cons vlan vlans ih => rw [List.foldl_cons, ih]; rfl

theorem PortStatement.applyTo_ports (statement : PortStatement) (network : Network) (id : Text) :
    (statement.applyTo network id).ports = network.ports.modify id statement.apply :=
  PortStatement.applyTo_unchanged (f := Network.ports) (fun _ _ _ => rfl) statement network id

/-- What one action does to the record of a port. -/
theorem Action.get?_ports_apply (a : Action) (network : Network) (port : Text) :
    (a.apply network).ports.get? port =
      if a = .openPort port then
        some ((network.ports.get? port).getD { id := port, shutdown := .off })
      else (network.ports.get? port).map fun record =>
        (statementsOf port [a]).foldl (fun r s => s.apply r) record := by
  cases a with
  | openPort id =>
    have h : (Action.openPort id).apply network =
        { network with ports := network.ports.insertNew id { id, shutdown := .off } } := rfl
    rw [h, OrderedMap.get?_insertNew]
    by_cases hid : port = id
    · simp [hid]
    · simp [hid, Ne.symm hid, statementsOf]
  | inPort id statement =>
    have h : (Action.inPort id statement).apply network = statement.applyTo network id := rfl
    rw [h, PortStatement.applyTo_ports, OrderedMap.get?_modify]
    by_cases hid : port = id
    · simp [hid, statementsOf]
    · simp [hid, Ne.symm hid, statementsOf]
  | declare statement =>
    simp [Action.apply, Network.declare, statementsOf]
  | openVlan id =>
    simp [Action.apply, Network.updateVlan, statementsOf]
  | inVlan id statement =>
    simp [Action.apply, Network.modifyVlan, statementsOf]

/-- The record of a port is what its statements make of a new one. -/
theorem get?_ports_replay {as : List Action} (h : Ordered as) (port : Text) :
    (replay start as).ports.get? port =
      if .openPort port ∈ as then
        some ((statementsOf port as).foldl (fun r s => s.apply r) { id := port, shutdown := .off })
      else none := by
  induction h with
  | nil => rfl
  | @concat as a before follows ih =>
    rw [replay_concat, Action.get?_ports_apply, ih]
    by_cases ha : a = .openPort port
    · subst ha
      have hnone : statementsOf port [.openPort port] = [] := rfl
      rw [statementsOf_concat, hnone]
      by_cases hmem : Action.openPort port ∈ as
      · simp [hmem]
      · -- a port without a header so far has no statements either
        have hempty : statementsOf port as = [] := by
          rw [List.eq_nil_iff_forall_not_mem]
          intro s hs
          have hin := mem_statementsOf.mp hs
          exact hmem (before.follows_of_mem hin)
        simp [hmem, hempty]
    · have hmem : Action.openPort port ∈ as ++ [a] ↔ Action.openPort port ∈ as := by
        simp [Ne.symm ha]
      rw [if_neg ha, statementsOf_concat]
      by_cases hopen : Action.openPort port ∈ as
      · simp [hmem, hopen, List.foldl_append]
      · simp [hmem, hopen]

theorem mem_ports_keys_replay {as : List Action} (h : Ordered as) {port : Text} :
    port ∈ (replay start as).ports.keys ↔ .openPort port ∈ as := by
  rw [← OrderedMap.get?_isSome_iff, get?_ports_replay h]
  by_cases hmem : Action.openPort port ∈ as <;> simp [hmem]

/-- The port that an action makes a record for, if it has none yet. -/
def Action.openedPort? : Action → Option Text
  | .openPort id => some id
  | _ => none

theorem Action.ports_keys_apply (a : Action) (network : Network) :
    (a.apply network).ports.keys = a.openedPort?.toList.foldl appendNew network.ports.keys := by
  cases a with
  | openPort id => exact OrderedMap.keys_insertNew ..
  | inPort id statement =>
    have h : (Action.inPort id statement).apply network = statement.applyTo network id := rfl
    rw [h, PortStatement.applyTo_ports]
    exact OrderedMap.keys_modify ..
  | _ => rfl

/-- The ports stand in the order of their first headers. -/
theorem ports_keys_replay (network : Network) (as : List Action) :
    (replay network as).ports.keys =
      (as.filterMap Action.openedPort?).foldl appendNew network.ports.keys := by
  induction as using List.reverseRecOn with
  | nil => rfl
  | append_singleton as a ih =>
    rw [replay_concat, Action.ports_keys_apply, ih, List.filterMap_append, List.foldl_append]
    cases a <;> rfl

def PortStatement.join (statement : PortStatement) (port key : Text) (vlan : Vlan) : Vlan :=
  let vlan := if statement.untaggedVlans.contains key then vlan.addUntagged port else vlan
  if statement.taggedVlans.contains key then vlan.addTagged port else vlan

/-- What an action does to the record that a VLAN has already. -/
def Action.onVlan (key : Text) : Action → Vlan → Vlan
  | .inVlan id statement => if id = key then statement.apply else fun vlan => vlan
  | .inPort id statement => statement.join id key
  | _ => fun vlan => vlan

/-- The same change to several VLANs, one of them perhaps repeatedly. -/
theorem get?_vlans_foldl_modify (change : Vlan → Vlan) (again : ∀ r, change (change r) = change r)
    (network : Network) (vlans : List Text) (key : Text) :
    (vlans.foldl (fun n v => n.modifyVlan v change) network).vlans.get? key =
      (network.vlans.get? key).map fun r => if vlans.contains key then change r else r := by
  induction vlans generalizing network with
  | nil => simp
  | cons vlan vlans ih =>
    have hstep : (network.modifyVlan vlan change).vlans.get? key =
        if key = vlan then (network.vlans.get? key).map change else network.vlans.get? key :=
      OrderedMap.get?_modify _ _ _ _
    rw [List.foldl_cons, ih, hstep]
    by_cases hv : key = vlan
    · by_cases hm : key ∈ vlans <;> simp [hv, again, Function.comp_def]
    · simp [hv]

theorem Vlan.addUntagged_again (vlan : Vlan) (port : Text) :
    (vlan.addUntagged port).addUntagged port = vlan.addUntagged port := by
  have : (vlan.untagged.insert port).insert port = vlan.untagged.insert port :=
    OrderedSet.insert_of_mem (by simp)
  simp [Vlan.addUntagged, this]

theorem Vlan.addTagged_again (vlan : Vlan) (port : Text) :
    (vlan.addTagged port).addTagged port = vlan.addTagged port := by
  have : (vlan.tagged.insert port).insert port = vlan.tagged.insert port :=
    OrderedSet.insert_of_mem (by simp)
  simp [Vlan.addTagged, this]

theorem PortStatement.get?_vlans_applyTo (statement : PortStatement) (network : Network)
    (id key : Text) :
    (statement.applyTo network id).vlans.get? key =
      (network.vlans.get? key).map (statement.join id key) := by
  have htagged := get?_vlans_foldl_modify (Vlan.addTagged · id)
    fun r => Vlan.addTagged_again r id
  have huntagged := get?_vlans_foldl_modify (Vlan.addUntagged · id)
    fun r => Vlan.addUntagged_again r id
  have hports : (network.modifyPort id statement.apply).vlans = network.vlans := rfl
  rw [PortStatement.applyTo]
  exact (htagged _ _ key).trans (by
    rw [show (joinUntagged id) = fun n v => n.modifyVlan v (Vlan.addUntagged · id) from rfl,
      huntagged, hports, Option.map_map]
    rfl)

/-- What one action does to the record of a VLAN. -/
theorem Action.get?_vlans_apply (a : Action) (network : Network) (key : Text) :
    (a.apply network).vlans.get? key =
      if a = .openVlan key then some ((network.vlans.get? key).getD { id := key })
      else (network.vlans.get? key).map (a.onVlan key) := by
  cases a with
  | openVlan id =>
    have h : (Action.openVlan id).apply network = network.updateVlan id fun vlan => vlan := rfl
    rw [h, Network.updateVlan, OrderedMap.get?_upsert]
    by_cases hid : key = id
    · simp [hid]
    · simp [hid, Ne.symm hid, Action.onVlan]
  | inVlan id statement =>
    have h : (Action.inVlan id statement).apply network =
        network.modifyVlan id statement.apply := rfl
    rw [h, Network.modifyVlan, OrderedMap.get?_modify]
    by_cases hid : key = id
    · simp [hid, Action.onVlan]
    · simp [hid, Ne.symm hid, Action.onVlan]
  | inPort id statement =>
    have h : (Action.inPort id statement).apply network = statement.applyTo network id := rfl
    rw [h, PortStatement.get?_vlans_applyTo]
    simp [Action.onVlan]
  | declare statement => simp [Action.apply, Network.declare, Action.onVlan]
  | openPort id => simp [Action.apply, Action.onVlan]

theorem mem_vlans_keys_replay {as : List Action} {key : Text} :
    key ∈ (replay start as).vlans.keys ↔ .openVlan key ∈ as := by
  rw [← OrderedMap.get?_isSome_iff]
  induction as using List.reverseRecOn with
  | nil => simp [replay, start]
  | append_singleton as a ih =>
    rw [replay_concat, Action.get?_vlans_apply]
    by_cases ha : a = .openVlan key
    · simp [ha]
    · rw [if_neg ha, Option.isSome_map, ih]
      simp [Ne.symm ha]

def Action.openedVlan? : Action → Option Text
  | .openVlan id => some id
  | _ => none

theorem Action.vlans_keys_apply (a : Action) (network : Network) :
    (a.apply network).vlans.keys = a.openedVlan?.toList.foldl appendNew network.vlans.keys := by
  cases a with
  | openVlan id => exact OrderedMap.keys_upsert ..
  | inVlan id statement => exact OrderedMap.keys_modify ..
  | inPort id statement =>
    exact PortStatement.applyTo_unchanged (f := fun n : Network => n.vlans.keys)
      (fun _ _ _ => OrderedMap.keys_modify ..) statement network id
  | _ => rfl

/-- The VLANs stand in the order of their first headers. -/
theorem vlans_keys_replay (network : Network) (as : List Action) :
    (replay network as).vlans.keys =
      (as.filterMap Action.openedVlan?).foldl appendNew network.vlans.keys := by
  induction as using List.reverseRecOn with
  | nil => rfl
  | append_singleton as a ih =>
    rw [replay_concat, Action.vlans_keys_apply, ih, List.filterMap_append, List.foldl_append]
    cases a <;> rfl

/-- What holds of a new VLAN and is kept by every later action holds of the record in the end. -/
theorem vlan_induction {P : List Action → Vlan → Prop} {key : Text}
    (new : ∀ as, .openVlan key ∉ as → P (as ++ [.openVlan key]) { id := key })
    (step : ∀ as a vlan, .openVlan key ∈ as → P as vlan → P (as ++ [a]) (a.onVlan key vlan))
    {as : List Action} {vlan : Vlan} (h : (replay start as).vlans.get? key = some vlan) :
    P as vlan := by
  induction as using List.reverseRecOn generalizing vlan with
  | nil => simp [replay, start] at h
  | append_singleton as a ih =>
    rw [replay_concat, Action.get?_vlans_apply] at h
    cases hbefore : (replay start as).vlans.get? key with
    | none =>
      have hnone : Action.openVlan key ∉ as := by
        rw [← mem_vlans_keys_replay, ← OrderedMap.get?_eq_none_iff]
        exact hbefore
      by_cases ha : a = .openVlan key
      · rw [if_pos ha, hbefore] at h
        cases h
        exact ha ▸ new as hnone
      · simp [ha, hbefore] at h
    | some record =>
      have hmem : Action.openVlan key ∈ as :=
        mem_vlans_keys_replay.mp (OrderedMap.mem_keys_of_get? hbefore)
      have hkeep := step as a record hmem (ih hbefore)
      by_cases ha : a = .openVlan key
      · rw [if_pos ha, hbefore] at h
        cases h
        rw [ha] at hkeep ⊢
        exact hkeep
      · rw [if_neg ha, hbefore] at h
        cases h
        exact hkeep

def vlanStatementsOf (vlan : Text) (as : List Action) : List VlanStatement :=
  as.filterMap fun
    | .inVlan id statement => if id = vlan then some statement else none
    | _ => none

theorem mem_vlanStatementsOf {vlan : Text} {as : List Action} {statement : VlanStatement} :
    statement ∈ vlanStatementsOf vlan as ↔ .inVlan vlan statement ∈ as := by
  rw [vlanStatementsOf, List.mem_filterMap]
  constructor
  · rintro ⟨a, ha, hs⟩
    cases a with
    | inVlan id s =>
      by_cases hid : id = vlan
      · have hs' : s = statement := by simpa [hid] using hs
        exact hid ▸ hs' ▸ ha
      · simp [hid] at hs
    | _ => cases hs
  · intro h
    exact ⟨_, h, by simp⟩

/-- Its members aside, an action changes a VLAN by the statement in its block. -/
theorem Action.withoutMembers_onVlan (a : Action) (key : Text) (vlan : Vlan) :
    (a.onVlan key vlan).withoutMembers =
      (vlanStatementsOf key [a]).foldl (fun v s => s.apply v) vlan.withoutMembers := by
  cases a with
  | inVlan id statement =>
    rw [Action.onVlan, vlanStatementsOf]
    by_cases hid : id = key
    · cases statement <;> simp [hid, VlanStatement.apply, Vlan.withoutMembers]
    · simp [hid]
  | inPort id statement =>
    rw [Action.onVlan, PortStatement.join]
    split <;> split <;> rfl
  | _ => rfl

/-- Its members aside, the record of a VLAN is what the statements in its blocks make of a new
one. -/
theorem get?_vlans_withoutMembers {as : List Action} (h : Ordered as) (key : Text) :
    ((replay start as).vlans.get? key).map Vlan.withoutMembers =
      if .openVlan key ∈ as then
        some ((vlanStatementsOf key as).foldl (fun v s => s.apply v) { id := key })
      else none := by
  induction h with
  | nil => rfl
  | @concat as a before follows ih =>
    rw [replay_concat, Action.get?_vlans_apply]
    have hconcat : vlanStatementsOf key (as ++ [a]) =
        vlanStatementsOf key as ++ vlanStatementsOf key [a] := List.filterMap_append
    by_cases ha : a = .openVlan key
    · subst ha
      have hnone : vlanStatementsOf key [.openVlan key] = [] := rfl
      rw [if_pos rfl, hconcat, hnone, List.append_nil]
      cases hget : (replay start as).vlans.get? key with
      | some vlan =>
        rw [hget] at ih
        have hopen : Action.openVlan key ∈ as :=
          mem_vlans_keys_replay.mp (OrderedMap.mem_keys_of_get? hget)
        simpa [hopen] using ih
      | none =>
        -- a VLAN without a header so far has no statements either
        have hclosed : Action.openVlan key ∉ as := fun hopen =>
          OrderedMap.get?_eq_none_iff.mp hget (mem_vlans_keys_replay.mpr hopen)
        have hempty : vlanStatementsOf key as = [] := by
          rw [List.eq_nil_iff_forall_not_mem]
          intro s hs
          exact hclosed (before.follows_of_mem (mem_vlanStatementsOf.mp hs))
        simp [hempty, Vlan.withoutMembers]
    · have hmem : Action.openVlan key ∈ as ++ [a] ↔ Action.openVlan key ∈ as := by
        simp [Ne.symm ha]
      have hchange : Vlan.withoutMembers ∘ a.onVlan key =
          (fun v => (vlanStatementsOf key [a]).foldl (fun v s => s.apply v) v) ∘
            Vlan.withoutMembers := funext fun v => a.withoutMembers_onVlan key v
      rw [if_neg ha, Option.map_map, hchange, ← Option.map_map, ih, hconcat]
      by_cases hopen : Action.openVlan key ∈ as
      · simp [hopen, List.foldl_append]
      · simp [hmem, hopen]

end SwitchDialects.Ios
