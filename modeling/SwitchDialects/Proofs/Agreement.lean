import SwitchDialects.Proofs.Ios.Membership
import SwitchDialects.Proofs.ProCurve.Membership

/-!
# When the two views of membership agree

Statements overwrite the fields of a port, and the sets of VLANs only grow. So the sets keep an
access or voice VLAN that a later statement replaced, and this is the only way in which they become
stale. IOS moreover looks a VLAN up when a port names it, so the sets miss a VLAN that is declared
only later, and this is the only way in which they become incomplete.
-/

namespace SwitchDialects

namespace Ios

/-- The VLAN that a statement takes for the voice of its port. -/
def PortStatement.voiceVlans (statement : PortStatement) : List Text := statement.voice?.toList

theorem joined_tagged_cases {as : List Action} {port vlan : Text}
    (h : Joined PortStatement.taggedVlans as port vlan) :
    OnTrunk as port vlan ∨ Joined PortStatement.voiceVlans as port vlan := by
  obtain ⟨before, statement, after, rfl, hnames, hopen⟩ := h
  rcases PortStatement.mem_taggedVlans.mp hnames with htrunk | hvoice
  · exact Or.inl ⟨statement, by simp, htrunk⟩
  · exact Or.inr ⟨before, statement, after, rfl, Option.mem_toList.mpr hvoice, hopen⟩

theorem joined_tagged_of_voice {as : List Action} {port vlan : Text}
    (h : Joined PortStatement.voiceVlans as port vlan) :
    Joined PortStatement.taggedVlans as port vlan := by
  obtain ⟨before, statement, after, rfl, hnames, hopen⟩ := h
  exact ⟨before, statement, after, rfl,
    PortStatement.mem_taggedVlans.mpr (Or.inr (Option.mem_toList.mp hnames)), hopen⟩

/-- A member that some statement made has a VLAN record to be in and a port record to compare. -/
theorem Joined.records {names : PortStatement → List Text} {as : List Action} (h : Ordered as)
    {port key : Text} (hj : Joined names as port key) :
    (∃ vlan, (replay start as).vlans.get? key = some vlan) ∧
      ∃ record, (replay start as).ports.get? port = some record :=
  ⟨OrderedMap.exists_get?_of_mem (mem_vlans_keys_replay.mpr hj.openVlan_mem),
    OrderedMap.exists_get?_of_mem (hj.port_mem h)⟩

theorem untaggedCurrent_iff {as : List Action} (h : Ordered as) :
    (replay start as).UntaggedCurrent ↔ ∀ port vlan,
      Joined PortStatement.untaggedVlans as port vlan → lastAccess port as = some vlan := by
  constructor
  · intro hcurrent port key hj
    obtain ⟨⟨vlan, hvlan⟩, _⟩ := hj.records h
    obtain ⟨record, hrecord, haccess⟩ :=
      hcurrent key vlan port hvlan ((mem_untagged_iff hvlan port).mpr hj)
    rw [← (port_fields h hrecord).1, haccess]
  · intro hlast key vlan port hvlan hport
    have hj := (mem_untagged_iff hvlan port).mp hport
    obtain ⟨_, record, hrecord⟩ := hj.records h
    exact ⟨record, hrecord, (port_fields h hrecord).1.trans (hlast port key hj)⟩

theorem taggedCurrent_iff {as : List Action} (h : Ordered as) :
    (replay start as).TaggedCurrent ↔ ∀ port vlan,
      Joined PortStatement.voiceVlans as port vlan →
        OnTrunk as port vlan ∨ lastVoice port as = some vlan := by
  constructor
  · intro hcurrent port key hj
    have hj := joined_tagged_of_voice hj
    obtain ⟨⟨vlan, hvlan⟩, _⟩ := hj.records h
    obtain ⟨record, hrecord, hnamed⟩ :=
      hcurrent key vlan port hvlan ((mem_tagged_iff hvlan port).mpr hj)
    obtain ⟨_, hvoice, htrunk⟩ := port_fields h hrecord
    exact hnamed.imp (htrunk key).mp fun hv => hvoice ▸ hv
  · intro hlast key vlan port hvlan hport
    have hj := (mem_tagged_iff hvlan port).mp hport
    obtain ⟨_, record, hrecord⟩ := hj.records h
    obtain ⟨_, hvoice, htrunk⟩ := port_fields h hrecord
    have hnamed : OnTrunk as port key ∨ lastVoice port as = some key :=
      (joined_tagged_cases hj).elim Or.inl (hlast port key)
    exact ⟨record, hrecord, hnamed.imp (htrunk key).mpr fun hv => hvoice.trans hv⟩

theorem untaggedOnce_iff {as : List Action} (h : Ordered as) :
    (replay start as).UntaggedOnce ↔ ∀ port vlan other,
      Joined PortStatement.untaggedVlans as port vlan →
        Joined PortStatement.untaggedVlans as port other → vlan = other := by
  constructor
  · intro honce port key other hj hj'
    obtain ⟨⟨vlan, hvlan⟩, _⟩ := hj.records h
    obtain ⟨⟨vlan', hvlan'⟩, _⟩ := hj'.records h
    exact honce key vlan other vlan' port hvlan hvlan' ((mem_untagged_iff hvlan port).mpr hj)
      ((mem_untagged_iff hvlan' port).mpr hj')
  · intro hsame key vlan other vlan' port hvlan hvlan' hport hport'
    exact hsame port key other ((mem_untagged_iff hvlan port).mp hport)
      ((mem_untagged_iff hvlan' port).mp hport')

theorem untaggedComplete_iff {as : List Action} (h : Ordered as) :
    (replay start as).UntaggedComplete ↔ ∀ port vlan, .openVlan vlan ∈ as →
      lastAccess port as = some vlan → Joined PortStatement.untaggedVlans as port vlan := by
  constructor
  · intro hcomplete port key hopen hlast
    obtain ⟨vlan, hvlan⟩ := OrderedMap.exists_get?_of_mem (mem_vlans_keys_replay.mpr hopen)
    obtain ⟨statement, hmem, _⟩ := inPort_mem_of_last hlast
    obtain ⟨record, hrecord⟩ := exists_record h hmem
    have haccess := (port_fields h hrecord).1.trans hlast
    exact (mem_untagged_iff hvlan port).mp (hcomplete key vlan port record hvlan hrecord haccess)
  · intro hjoined key vlan port record hvlan hrecord haccess
    have hopen := mem_vlans_keys_replay.mp (OrderedMap.mem_keys_of_get? hvlan)
    have hlast := (port_fields h hrecord).1.symm.trans haccess
    exact (mem_untagged_iff hvlan port).mpr (hjoined port key hopen hlast)

theorem taggedComplete_iff {as : List Action} (h : Ordered as) :
    (replay start as).TaggedComplete ↔ ∀ port vlan, .openVlan vlan ∈ as →
      OnTrunk as port vlan ∨ lastVoice port as = some vlan →
        Joined PortStatement.taggedVlans as port vlan := by
  constructor
  · intro hcomplete port key hopen hnamed
    obtain ⟨vlan, hvlan⟩ := OrderedMap.exists_get?_of_mem (mem_vlans_keys_replay.mpr hopen)
    have hmem : ∃ statement, .inPort port statement ∈ as := by
      rcases hnamed with ⟨statement, hmem, _⟩ | hlast
      · exact ⟨statement, hmem⟩
      · obtain ⟨statement, hmem, _⟩ := inPort_mem_of_last hlast
        exact ⟨statement, hmem⟩
    obtain ⟨record, hrecord⟩ := exists_record h hmem.choose_spec
    obtain ⟨_, hvoice, htrunk⟩ := port_fields h hrecord
    apply (mem_tagged_iff hvlan port).mp
    exact hcomplete key vlan port record hvlan hrecord
      (hnamed.imp (htrunk key).mpr fun hv => hvoice.trans hv)
  · intro hjoined key vlan port record hvlan hrecord hnamed
    have hopen := mem_vlans_keys_replay.mp (OrderedMap.mem_keys_of_get? hvlan)
    obtain ⟨_, hvoice, htrunk⟩ := port_fields h hrecord
    exact (mem_tagged_iff hvlan port).mpr
      (hjoined port key hopen (hnamed.imp (htrunk key).mp fun hv => hvoice ▸ hv))

end Ios

namespace ProCurve

theorem mem_untagged_iff {as : List Action} {key : Text} {vlan : Vlan}
    (h : (replay start as).vlans.get? key = some vlan) (port : Text) :
    port ∈ vlan.untagged ↔ key ∈ untaggedBy port as := by
  rw [← vlanAt_of_get? h, mem_untagged_vlanAt]

theorem untaggedOnce_iff (as : List Action) :
    (replay start as).UntaggedOnce ↔
      ∀ port, ∀ vlan ∈ untaggedBy port as, ∀ other ∈ untaggedBy port as, vlan = other := by
  constructor
  · intro honce port key hkey other hother
    obtain ⟨vlan, hvlan⟩ := OrderedMap.exists_get?_of_mem (keys_of_mem_untaggedBy hkey).2
    obtain ⟨vlan', hvlan'⟩ := OrderedMap.exists_get?_of_mem (keys_of_mem_untaggedBy hother).2
    exact honce key vlan other vlan' port hvlan hvlan' ((mem_untagged_iff hvlan port).mpr hkey)
      ((mem_untagged_iff hvlan' port).mpr hother)
  · intro hsame key vlan other vlan' port hvlan hvlan' hport hport'
    exact hsame port key ((mem_untagged_iff hvlan port).mp hport) other
      ((mem_untagged_iff hvlan' port).mp hport')

theorem untaggedCurrent_iff (as : List Action) :
    (replay start as).UntaggedCurrent ↔
      ∀ port, ∀ vlan ∈ untaggedBy port as, ∀ other ∈ untaggedBy port as, vlan = other := by
  constructor
  · exact fun h => (untaggedOnce_iff as).mp h.once
  · intro hsame key vlan port hvlan hport
    have hkey := (mem_untagged_iff hvlan port).mp hport
    refine ⟨_, get?_ports_of_mem (keys_of_mem_untaggedBy hkey).1, ?_⟩
    -- all the VLANs that list the port are the same, so the last one is this one
    obtain ⟨last, hlast⟩ := List.getLast?_isSome.mpr (List.ne_nil_of_mem hkey) |>
      Option.isSome_iff_exists.mp
    rw [accessVlan_portAt, hlast, hsame port last (List.mem_of_getLast? hlast) key hkey]

end ProCurve

/-- The sets of a network agree with the fields of its ports exactly when no access VLAN and no
voice VLAN that a port took was replaced by another one. -/
theorem sets_current_iff (text : Text) :
    ((Ios.read text).UntaggedCurrent ↔ ∀ port vlan,
      Ios.Joined Ios.PortStatement.untaggedVlans (Ios.actions text) port vlan →
        Ios.lastAccess port (Ios.actions text) = some vlan) ∧
    ((Ios.read text).TaggedCurrent ↔ ∀ port vlan,
      Ios.Joined Ios.PortStatement.voiceVlans (Ios.actions text) port vlan →
        Ios.OnTrunk (Ios.actions text) port vlan ∨
          Ios.lastVoice port (Ios.actions text) = some vlan) ∧
    ((Ios.read text).UntaggedOnce ↔ ∀ port vlan other,
      Ios.Joined Ios.PortStatement.untaggedVlans (Ios.actions text) port vlan →
        Ios.Joined Ios.PortStatement.untaggedVlans (Ios.actions text) port other →
          vlan = other) ∧
    ((ProCurve.read text).UntaggedCurrent ↔
      ∀ port, ∀ vlan ∈ ProCurve.untaggedBy port (ProCurve.actions text),
        ∀ other ∈ ProCurve.untaggedBy port (ProCurve.actions text), vlan = other) ∧
    ((ProCurve.read text).UntaggedOnce ↔
      ∀ port, ∀ vlan ∈ ProCurve.untaggedBy port (ProCurve.actions text),
        ∀ other ∈ ProCurve.untaggedBy port (ProCurve.actions text), vlan = other) := by
  rw [Ios.read_eq_replay, ProCurve.read_eq_replay]
  have h := Ios.ordered_actions text
  exact ⟨Ios.untaggedCurrent_iff h, Ios.taggedCurrent_iff h, Ios.untaggedOnce_iff h,
    ProCurve.untaggedCurrent_iff _, ProCurve.untaggedOnce_iff _⟩

/-- A port that changes its access VLAN stays in the untagged set of the old one. -/
theorem replaced_access_vlan_is_stale :
    ¬ (Ios.read ("vlan 10\nvlan 20\ninterface Gi0/1\n switchport access vlan 10\n" ++
      " switchport access vlan 20").toList).UntaggedCurrent := by
  intro h
  obtain ⟨record, hrecord, haccess⟩ := h "10".toList
    { id := "10".toList, untagged := OrderedSet.empty.insert "1".toList } "1".toList
    (by decide +kernel) (OrderedSet.mem_insert.mpr (Or.inr rfl))
  have hread : (Ios.read ("vlan 10\nvlan 20\ninterface Gi0/1\n switchport access vlan 10\n" ++
      " switchport access vlan 20").toList).ports.get? "1".toList =
      some { id := "1".toList, accessVlan := some "20".toList, shutdown := .off } := by
    decide +kernel
  rw [hread] at hrecord
  cases hrecord
  exact absurd haccess (by decide)

/-- The sets of an IOS network hold every membership that the fields of its ports state exactly when
each such membership, into a VLAN declared anywhere, is stated once after the declaration. -/
theorem sets_complete_iff (text : Text) :
    ((Ios.read text).UntaggedComplete ↔ ∀ port vlan, .openVlan vlan ∈ Ios.actions text →
      Ios.lastAccess port (Ios.actions text) = some vlan →
        Ios.Joined Ios.PortStatement.untaggedVlans (Ios.actions text) port vlan) ∧
    ((Ios.read text).TaggedComplete ↔ ∀ port vlan, .openVlan vlan ∈ Ios.actions text →
      Ios.OnTrunk (Ios.actions text) port vlan ∨
          Ios.lastVoice port (Ios.actions text) = some vlan →
        Ios.Joined Ios.PortStatement.taggedVlans (Ios.actions text) port vlan) := by
  rw [Ios.read_eq_replay]
  have h := Ios.ordered_actions text
  exact ⟨Ios.untaggedComplete_iff h, Ios.taggedComplete_iff h⟩

/-- A port that names its access VLAN before the VLAN is declared is missing in it. -/
theorem late_declaration_loses_member :
    ¬ (Ios.read "interface Gi0/1\n switchport access vlan 10\nvlan 10".toList).UntaggedComplete := by
  intro h
  have hmem := h "10".toList { id := "10".toList } "1".toList
    { id := "1".toList, accessVlan := some "10".toList, shutdown := .off }
    (by decide +kernel) (by decide +kernel) rfl
  exact absurd hmem (OrderedSet.notMem_empty _)

end SwitchDialects
