import SwitchDialects.Proofs.Ios.Plain
import SwitchDialects.Proofs.Replay
import SwitchDialects.Network

/-!
# Membership read from an IOS configuration

A port becomes a member of a VLAN by a statement that names a VLAN declared before it; nothing takes
a port out of a set again. Its fields hold the last access VLAN, the last voice VLAN and all trunk
VLANs that were stated. From these two descriptions follows exactly when the sets miss a membership
that the fields state: when the VLAN was declared only after every statement that names it.
-/

namespace SwitchDialects.Ios

namespace PortStatement

def access? : PortStatement → Option Text
  | .access vlan => some vlan
  | _ => none

def voice? : PortStatement → Option Text
  | .voice vlan => some vlan
  | _ => none

def trunkVlans : PortStatement → List Text
  | .trunk vlans => vlans
  | _ => []

theorem access?_eq_some_iff {statement : PortStatement} {vlan : Text} :
    statement.access? = some vlan ↔ statement = .access vlan := by
  cases statement <;> simp [access?]

theorem voice?_eq_some_iff {statement : PortStatement} {vlan : Text} :
    statement.voice? = some vlan ↔ statement = .voice vlan := by
  cases statement <;> simp [voice?]

theorem mem_untaggedVlans {statement : PortStatement} {vlan : Text} :
    vlan ∈ statement.untaggedVlans ↔ statement.access? = some vlan := by
  cases statement <;> simp [untaggedVlans, access?, eq_comm]

theorem mem_taggedVlans {statement : PortStatement} {vlan : Text} :
    vlan ∈ statement.taggedVlans ↔ vlan ∈ statement.trunkVlans ∨ statement.voice? = some vlan := by
  cases statement <;> simp [taggedVlans, trunkVlans, voice?, eq_comm]

end PortStatement

/-- The access VLAN of the last statement that gives the port one. -/
def lastAccess (port : Text) (as : List Action) : Option Text :=
  ((statementsOf port as).filterMap PortStatement.access?).getLast?

def lastVoice (port : Text) (as : List Action) : Option Text :=
  ((statementsOf port as).filterMap PortStatement.voice?).getLast?

/-- Some statement puts the VLAN on the trunk of the port. -/
def OnTrunk (as : List Action) (port vlan : Text) : Prop :=
  ∃ statement, .inPort port statement ∈ as ∧ vlan ∈ statement.trunkVlans

/-- Some statement about the port names the VLAN after it was declared. -/
def Joined (names : PortStatement → List Text) (as : List Action) (port vlan : Text) : Prop :=
  ∃ before statement after, as = before ++ .inPort port statement :: after ∧
    vlan ∈ names statement ∧ .openVlan vlan ∈ before

theorem joined_concat {names : PortStatement → List Text} {as : List Action} {a : Action}
    {port vlan : Text} :
    Joined names (as ++ [a]) port vlan ↔ Joined names as port vlan ∨
      (∃ statement, a = .inPort port statement ∧ vlan ∈ names statement) ∧
        .openVlan vlan ∈ as := by
  constructor
  · rintro ⟨before, statement, after, h, hnames, hopen⟩
    rcases List.eq_nil_or_concat after with rfl | ⟨after, last, rfl⟩
    · obtain ⟨rfl, ha⟩ := List.append_inj' h rfl
      exact Or.inr ⟨⟨statement, List.singleton_inj.mp ha, hnames⟩, hopen⟩
    · have h' : as ++ [a] = (before ++ .inPort port statement :: after) ++ [last] := by
        simpa using h
      obtain ⟨rfl, _⟩ := List.append_inj' h' rfl
      exact Or.inl ⟨before, statement, after, rfl, hnames, hopen⟩
  · rintro (⟨before, statement, after, rfl, hnames, hopen⟩ | ⟨⟨statement, rfl, hnames⟩, hopen⟩)
    · exact ⟨before, statement, after ++ [a], by simp, hnames, hopen⟩
    · exact ⟨as, statement, [], rfl, hnames, hopen⟩

theorem Joined.openVlan_mem {names : PortStatement → List Text} {as : List Action}
    {port vlan : Text} (h : Joined names as port vlan) : .openVlan vlan ∈ as := by
  obtain ⟨before, statement, after, rfl, _, hopen⟩ := h
  simp [hopen]

theorem Joined.inPort_mem {names : PortStatement → List Text} {as : List Action}
    {port vlan : Text} (h : Joined names as port vlan) :
    ∃ statement, .inPort port statement ∈ as ∧ vlan ∈ names statement := by
  obtain ⟨before, statement, after, rfl, hnames, _⟩ := h
  exact ⟨statement, by simp, hnames⟩

theorem PortStatement.accessVlan_apply (statement : PortStatement) (port : Port) :
    (statement.apply port).accessVlan = statement.access?.or port.accessVlan := by
  cases statement with
  | trunk vlans => simp [apply, access?, foldl_addTrunkVlan]
  | power enabled kept => cases kept <;> rfl
  | _ => rfl

theorem PortStatement.voiceVlan_apply (statement : PortStatement) (port : Port) :
    (statement.apply port).voiceVlan = statement.voice?.or port.voiceVlan := by
  cases statement with
  | trunk vlans => simp [apply, voice?, foldl_addTrunkVlan]
  | power enabled kept => cases kept <;> rfl
  | _ => rfl

theorem PortStatement.trunkVlans_apply (statement : PortStatement) (port : Port) :
    (statement.apply port).trunkVlans = statement.trunkVlans.foldl appendNew port.trunkVlans := by
  cases statement with
  | trunk vlans => simp [apply, trunkVlans, foldl_addTrunkVlan]
  | power enabled kept => cases kept <;> rfl
  | _ => rfl

theorem PortStatement.mem_trunkVlans_apply (statement : PortStatement) (port : Port)
    (vlan : Text) : vlan ∈ (statement.apply port).trunkVlans ↔
      vlan ∈ port.trunkVlans ∨ vlan ∈ statement.trunkVlans := by
  rw [PortStatement.trunkVlans_apply, mem_foldl_appendNew]

/-- The fields of a port by which it names VLANs. -/
theorem port_fields {as : List Action} (h : Ordered as) {port : Text} {record : Port}
    (hget : (replay start as).ports.get? port = some record) :
    record.accessVlan = lastAccess port as ∧ record.voiceVlan = lastVoice port as ∧
      ∀ vlan, vlan ∈ record.trunkVlans ↔ OnTrunk as port vlan := by
  rw [get?_ports_replay h] at hget
  split at hget
  · cases hget
    refine ⟨?_, ?_, fun vlan => ?_⟩
    · rw [Replay.foldl_overwrite (f := Port.accessVlan)
        (fun r s _ => PortStatement.accessVlan_apply s r), Option.or_none, lastAccess]
    · rw [Replay.foldl_overwrite (f := Port.voiceVlan)
        (fun r s _ => PortStatement.voiceVlan_apply s r), Option.or_none, lastVoice]
    · rw [Replay.foldl_collect (P := fun r : Port => vlan ∈ r.trunkVlans)
        (fun r s => s.mem_trunkVlans_apply r vlan)]
      simp [OnTrunk, mem_statementsOf]
  · cases hget

theorem port_fields_read {text port : Text} {record : Port}
    (hget : (read text).ports.get? port = some record) :
    record.accessVlan = lastAccess port (actions text) ∧
      record.voiceVlan = lastVoice port (actions text) ∧
      ∀ vlan, vlan ∈ record.trunkVlans ↔ OnTrunk (actions text) port vlan := by
  rw [read_eq_replay] at hget
  exact port_fields (ordered_actions text) hget

/-- A port that any statement is about has a record. -/
theorem exists_record {as : List Action} (h : Ordered as) {port : Text}
    {statement : PortStatement} (hmem : .inPort port statement ∈ as) :
    ∃ record, (replay start as).ports.get? port = some record :=
  OrderedMap.exists_get?_of_mem ((mem_ports_keys_replay h).mpr (h.follows_of_mem hmem))

theorem inPort_mem_of_last {f : PortStatement → Option Text} {as : List Action} {port vlan : Text}
    (h : ((statementsOf port as).filterMap f).getLast? = some vlan) :
    ∃ statement, .inPort port statement ∈ as ∧ f statement = some vlan := by
  obtain ⟨statement, hmem, hf⟩ := List.mem_filterMap.mp (List.mem_of_getLast? h)
  exact ⟨statement, mem_statementsOf.mp hmem, hf⟩

/-- Where all statements that give a value give the same one, it is the last one. -/
theorem last_eq_of_mem {f : PortStatement → Option Text} {as : List Action} {port vlan : Text}
    {statement : PortStatement} (hmem : .inPort port statement ∈ as) (hf : f statement = some vlan)
    (unique : ∀ s other, .inPort port s ∈ as → f s = some other → other = vlan) :
    ((statementsOf port as).filterMap f).getLast? = some vlan := by
  have hvlan : vlan ∈ (statementsOf port as).filterMap f :=
    List.mem_filterMap.mpr ⟨statement, mem_statementsOf.mpr hmem, hf⟩
  obtain ⟨last, hlast⟩ := Option.isSome_iff_exists.mp
    (List.getLast?_isSome.mpr (List.ne_nil_of_mem hvlan))
  obtain ⟨s, hs, hlastf⟩ := inPort_mem_of_last hlast
  rw [hlast, unique s last hs hlastf]

theorem PortStatement.mem_untagged_join {statement : PortStatement} {id key port : Text}
    {vlan : Vlan} : port ∈ (statement.join id key vlan).untagged ↔
      port ∈ vlan.untagged ∨ port = id ∧ key ∈ statement.untaggedVlans := by
  rw [PortStatement.join]
  by_cases hu : key ∈ statement.untaggedVlans <;> by_cases ht : key ∈ statement.taggedVlans <;>
    simp [hu, ht, Vlan.addUntagged, Vlan.addTagged]

theorem PortStatement.mem_tagged_join {statement : PortStatement} {id key port : Text}
    {vlan : Vlan} : port ∈ (statement.join id key vlan).tagged ↔
      port ∈ vlan.tagged ∨ port = id ∧ key ∈ statement.taggedVlans := by
  rw [PortStatement.join]
  by_cases hu : key ∈ statement.untaggedVlans <;> by_cases ht : key ∈ statement.taggedVlans <;>
    simp [hu, ht, Vlan.addUntagged, Vlan.addTagged]

theorem Action.mem_untagged_onVlan {a : Action} {key port : Text} {vlan : Vlan} :
    port ∈ (a.onVlan key vlan).untagged ↔ port ∈ vlan.untagged ∨
      ∃ statement, a = .inPort port statement ∧ key ∈ statement.untaggedVlans := by
  cases a with
  | inPort id statement =>
    rw [Action.onVlan, PortStatement.mem_untagged_join]
    by_cases hid : port = id
    · simp [hid]
    · simp [hid, Ne.symm hid]
  | inVlan id statement =>
    by_cases hid : id = key <;> cases statement <;> simp [Action.onVlan, hid, VlanStatement.apply]
  | _ => simp [Action.onVlan]

theorem Action.mem_tagged_onVlan {a : Action} {key port : Text} {vlan : Vlan} :
    port ∈ (a.onVlan key vlan).tagged ↔ port ∈ vlan.tagged ∨
      ∃ statement, a = .inPort port statement ∧ key ∈ statement.taggedVlans := by
  cases a with
  | inPort id statement =>
    rw [Action.onVlan, PortStatement.mem_tagged_join]
    by_cases hid : port = id
    · simp [hid]
    · simp [hid, Ne.symm hid]
  | inVlan id statement =>
    by_cases hid : id = key <;> cases statement <;> simp [Action.onVlan, hid, VlanStatement.apply]
  | _ => simp [Action.onVlan]

/-- Before its header a VLAN has no members. -/
theorem not_joined_of_notMem {names : PortStatement → List Text} {as : List Action}
    {port key : Text} (h : .openVlan key ∉ as) : ¬ Joined names (as ++ [.openVlan key]) port key := by
  rw [joined_concat]
  rintro (hj | ⟨⟨statement, ha, _⟩, _⟩)
  · exact h hj.openVlan_mem
  · cases ha

/-- The untagged members of a VLAN are the ports that took it for their access VLAN. -/
theorem mem_untagged_iff {as : List Action} {key : Text} {vlan : Vlan}
    (hget : (replay start as).vlans.get? key = some vlan) (port : Text) :
    port ∈ vlan.untagged ↔ Joined PortStatement.untaggedVlans as port key := by
  refine vlan_induction
    (P := fun as vlan => port ∈ vlan.untagged ↔ Joined PortStatement.untaggedVlans as port key)
    ?_ ?_ hget
  · intro as hnew
    exact iff_of_false (OrderedSet.notMem_empty port) (not_joined_of_notMem hnew)
  · intro as a record hopen ih
    rw [Action.mem_untagged_onVlan, joined_concat, ih]
    simp [hopen]

/-- The tagged members of a VLAN are the ports that took it for their trunk or voice. -/
theorem mem_tagged_iff {as : List Action} {key : Text} {vlan : Vlan}
    (hget : (replay start as).vlans.get? key = some vlan) (port : Text) :
    port ∈ vlan.tagged ↔ Joined PortStatement.taggedVlans as port key := by
  refine vlan_induction
    (P := fun as vlan => port ∈ vlan.tagged ↔ Joined PortStatement.taggedVlans as port key)
    ?_ ?_ hget
  · intro as hnew
    exact iff_of_false (OrderedSet.notMem_empty port) (not_joined_of_notMem hnew)
  · intro as a record hopen ih
    rw [Action.mem_tagged_onVlan, joined_concat, ih]
    simp [hopen]

/-- Only ports that have a record are members. -/
theorem Joined.port_mem {names : PortStatement → List Text} {as : List Action} (h : Ordered as)
    {port key : Text} (hj : Joined names as port key) : port ∈ (replay start as).ports.keys := by
  obtain ⟨statement, hmem, _⟩ := hj.inPort_mem
  exact (mem_ports_keys_replay h).mpr (h.follows_of_mem hmem)

theorem hasUntagged_iff {as : List Action} {port key : Text} :
    (replay start as).HasUntagged port key ↔ Joined PortStatement.untaggedVlans as port key := by
  constructor
  · rintro ⟨vlan, hvlan, hport⟩
    exact (mem_untagged_iff hvlan port).mp hport
  · intro h
    obtain ⟨vlan, hvlan⟩ := OrderedMap.exists_get?_of_mem (mem_vlans_keys_replay.mpr h.openVlan_mem)
    exact ⟨vlan, hvlan, (mem_untagged_iff hvlan port).mpr h⟩

theorem hasTagged_iff {as : List Action} {port key : Text} :
    (replay start as).HasTagged port key ↔ Joined PortStatement.taggedVlans as port key := by
  constructor
  · rintro ⟨vlan, hvlan, hport⟩
    exact (mem_tagged_iff hvlan port).mp hport
  · intro h
    obtain ⟨vlan, hvlan⟩ := OrderedMap.exists_get?_of_mem (mem_vlans_keys_replay.mpr h.openVlan_mem)
    exact ⟨vlan, hvlan, (mem_tagged_iff hvlan port).mpr h⟩

variable {as : List Action}

theorem id_apply (statement : PortStatement) (port : Port) :
    (statement.apply port).id = port.id := by
  cases statement with
  | trunk vlans => rw [PortStatement.apply, foldl_addTrunkVlan]
  | power enabled kept => cases kept <;> rfl
  | _ => rfl

theorem keyed_replay (h : Ordered as) (plain : ∀ a ∈ as, a.Plain) : (replay start as).Keyed where
  vlans _ _ hvlan := (plainVlan_replay plain hvlan).id
  ports key port hport := by
    rw [get?_ports_replay h] at hport
    split at hport
    · cases hport
      exact Replay.foldl_unchanged (f := Port.id) (fun r s _ => id_apply s r) _
    · cases hport

/-- Every member of a VLAN is a port. -/
theorem members_replay (h : Ordered as) :
    ∀ vlan ∈ (replay start as).vlans.values, ∀ port, port ∈ vlan.untagged ∨ port ∈ vlan.tagged →
      port ∈ (replay start as).ports.keys := by
  intro vlan hvlan port hport
  obtain ⟨key, hkey⟩ := OrderedMap.mem_values_iff.mp hvlan
  rcases hport with hport | hport
  · exact ((mem_untagged_iff hkey port).mp hport).port_mem h
  · exact ((mem_tagged_iff hkey port).mp hport).port_mem h

theorem isPortId_of_mem_keys (h : Ordered as) (plain : ∀ a ∈ as, a.Plain) {id : Text}
    (hid : id ∈ (replay start as).ports.keys) : IsPortId id :=
  plain _ ((mem_ports_keys_replay h).mp hid)

theorem keyed_read (text : Text) : (read text).Keyed := by
  rw [read_eq_replay]
  exact keyed_replay (ordered_actions text) fun _ => plain_actions

theorem members_read (text : Text) :
    ∀ vlan ∈ (read text).vlans.values, ∀ port, port ∈ vlan.untagged ∨ port ∈ vlan.tagged →
      port ∈ (read text).ports.keys := by
  rw [read_eq_replay]
  exact members_replay (ordered_actions text)

end SwitchDialects.Ios
