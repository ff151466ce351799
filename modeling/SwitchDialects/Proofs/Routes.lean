import SwitchDialects.Proofs.Ios.Printed

/-!
# Two routes from IOS to AOS-CX

An IOS configuration is translated to AOS-CX directly, or first to ProCurve and from there. On the
first route the membership of a port is decided by the fields that its statements filled, on the
second by the sets of the VLANs, read back into a port that has more trunk VLANs, a native VLAN and
no voice VLAN. Where the statements are coherent both say the same in AOS-CX.
-/

namespace SwitchDialects

open Text

namespace Port

/-- A port and what it becomes when only the sets of the VLANs are known of its membership. -/
structure Mirrors (port other : Port) : Prop where
  id : other.id = port.id
  unset : port.nativeVlan = none
  access : other.accessVlan = port.accessVlan
  native : other.nativeVlan = port.accessVlan
  voice : other.voiceVlan = none
  trunk : ∀ vlan, vlan ∈ other.trunkVlans ↔ vlan ∈ port.trunkVlans ∨ port.voiceVlan = some vlan

variable {port other : Port}

theorem Mirrors.allowedVlans_eq (h : Mirrors port other) :
    other.allowedVlans = port.allowedVlans := by
  rw [allowedVlans, allowedVlans, h.access, h.voice]
  apply NumericOrder.sortBy_foldl_appendNew
  intro vlan
  simp only [List.mem_filter, List.mem_append, Option.mem_toList, h.trunk, reduceCtorEq, or_false]
  constructor
  · rintro ⟨(htrunk | hvoice) | haccess, hne⟩
    · exact ⟨Or.inl (Or.inl htrunk), hne⟩
    · exact ⟨Or.inr hvoice, hne⟩
    · exact ⟨Or.inl (Or.inr haccess), hne⟩
  · rintro ⟨(htrunk | haccess) | hvoice, hne⟩
    · exact ⟨Or.inl (Or.inl htrunk), hne⟩
    · exact ⟨Or.inr haccess, hne⟩
    · exact ⟨Or.inl (Or.inr hvoice), hne⟩

theorem Mirrors.trunkVlans_ne_nil (h : Mirrors port other) :
    other.trunkVlans ≠ [] ↔ port.trunkVlans ≠ [] ∨ port.voiceVlan.isSome = true := by
  constructor
  · intro hne
    obtain ⟨vlan, hvlan⟩ := List.exists_mem_of_ne_nil _ hne
    rcases (h.trunk vlan).mp hvlan with htrunk | hvoice
    · exact Or.inl (List.ne_nil_of_mem htrunk)
    · exact Or.inr (Option.isSome_iff_exists.mpr ⟨vlan, hvoice⟩)
  · rintro (hne | hvoice)
    · obtain ⟨vlan, hvlan⟩ := List.exists_mem_of_ne_nil _ hne
      exact List.ne_nil_of_mem ((h.trunk vlan).mpr (Or.inl hvlan))
    · obtain ⟨vlan, hvlan⟩ := Option.isSome_iff_exists.mp hvoice
      exact List.ne_nil_of_mem ((h.trunk vlan).mpr (Or.inr hvlan))

/-- A voice VLAN makes a trunk of both, if it has data beside it or the port is in access mode. -/
theorem Mirrors.wantsTrunk_eq (h : Mirrors port other)
    (carried : port.voiceVlan.isSome = true → port.trunkVlans ≠ [] ∨ port.isAccess = true)
    (profile : SiteProfile) :
    other.wantsTrunk .proCurve profile = port.wantsTrunk .ios profile := by
  have huplink : other.isUplink profile = port.isUplink profile := by
    rw [isUplink, isUplink, h.id]
  have htrunk := h.trunkVlans_ne_nil
  have hios : (Dialect.ios == Dialect.ios) = true := rfl
  have hproCurve : (Dialect.proCurve == Dialect.ios) = false := rfl
  rw [Bool.eq_iff_iff]
  simp only [wantsTrunk, carriesVoice, huplink, hios, hproCurve, Bool.or_eq_true,
    Bool.not_eq_true', List.isEmpty_eq_false_iff, Bool.and_eq_true, htrunk, Bool.false_eq_true,
    false_and, or_false, true_and]
  constructor
  · rintro ((hlist | hvoice) | hup)
    · exact Or.inl (Or.inl hlist)
    · rcases carried hvoice with hlist | hmode
      · exact Or.inl (Or.inl hlist)
      · exact Or.inl (Or.inr ⟨hmode, hvoice⟩)
    · exact Or.inr hup
  · rintro ((hlist | ⟨_, hvoice⟩) | hup)
    · exact Or.inl (Or.inl hlist)
    · exact Or.inl (Or.inr hvoice)
    · exact Or.inr hup

theorem Mirrors.trunkNative_eq (h : Mirrors port other) (profile : SiteProfile) :
    other.trunkNative profile = port.trunkNative profile := by
  rw [trunkNative, trunkNative, h.native, h.access, h.unset, Option.or_self, Option.none_or]

/-- Both records give the same statements about VLANs. -/
theorem Mirrors.membership_eq (h : Mirrors port other)
    (carried : port.voiceVlan.isSome = true → port.trunkVlans ≠ [] ∨ port.isAccess = true)
    (profile : SiteProfile) :
    other.membership .proCurve profile = port.membership .ios profile := by
  rw [membership, membership, h.allowedVlans_eq, h.wantsTrunk_eq carried, h.trunkNative_eq,
    h.access]

end Port

namespace Ios

def Action.namedVlans : Action → List Text
  | .inPort _ statement =>
    statement.access?.toList ++ statement.voice?.toList ++ statement.trunkVlans
  | _ => []

/-- Statements about ports name VLANs that have a record by then, never two for access or two for
voice on one port, and none as native. -/
structure Coherent (as : List Action) : Prop where
  declared : ∀ before a after, as = before ++ a :: after →
    ∀ vlan ∈ a.namedVlans, vlan ∈ (replay start before).vlans.keys
  access : ∀ port vlan other, .inPort port (.access vlan) ∈ as →
    .inPort port (.access other) ∈ as → vlan = other
  voice : ∀ port vlan other, .inPort port (.voice vlan) ∈ as →
    .inPort port (.voice other) ∈ as → vlan = other
  native : ∀ port vlan, .inPort port (.native vlan) ∉ as

variable {as : List Action} {port vlan : Text}

/-- A VLAN that a statement names was declared before it. -/
theorem Coherent.joined (h : Coherent as) {names : PortStatement → List Text}
    {statement : PortStatement} (hmem : .inPort port statement ∈ as) (hnames : vlan ∈ names statement)
    (hnamed : vlan ∈ (Action.inPort port statement).namedVlans) : Joined names as port vlan := by
  obtain ⟨before, after, has⟩ := List.append_of_mem hmem
  have hopen := mem_vlans_keys_replay.mp (h.declared before _ after has vlan hnamed)
  exact ⟨before, statement, after, has, hnames, hopen⟩

theorem Coherent.joined_untagged_iff (h : Coherent as) :
    Joined PortStatement.untaggedVlans as port vlan ↔ lastAccess port as = some vlan := by
  constructor
  · intro hj
    obtain ⟨statement, hmem, hnames⟩ := hj.inPort_mem
    have haccess := PortStatement.mem_untaggedVlans.mp hnames
    refine last_eq_of_mem hmem haccess fun s other hs hother => ?_
    rw [PortStatement.access?_eq_some_iff.mp haccess] at hmem
    rw [PortStatement.access?_eq_some_iff.mp hother] at hs
    exact h.access port other vlan hs hmem
  · intro hlast
    obtain ⟨statement, hmem, haccess⟩ := inPort_mem_of_last hlast
    exact h.joined hmem (PortStatement.mem_untaggedVlans.mpr haccess)
      (by simp [Action.namedVlans, haccess])

theorem Coherent.joined_tagged_iff (h : Coherent as) :
    Joined PortStatement.taggedVlans as port vlan ↔
      OnTrunk as port vlan ∨ lastVoice port as = some vlan := by
  constructor
  · intro hj
    obtain ⟨statement, hmem, hnames⟩ := hj.inPort_mem
    rcases PortStatement.mem_taggedVlans.mp hnames with htrunk | hvoice
    · exact Or.inl ⟨statement, hmem, htrunk⟩
    · refine Or.inr (last_eq_of_mem hmem hvoice fun s other hs hother => ?_)
      rw [PortStatement.voice?_eq_some_iff.mp hvoice] at hmem
      rw [PortStatement.voice?_eq_some_iff.mp hother] at hs
      exact h.voice port other vlan hs hmem
  · rintro (⟨statement, hmem, htrunk⟩ | hlast)
    · exact h.joined hmem (PortStatement.mem_taggedVlans.mpr (Or.inl htrunk))
        (by simp [Action.namedVlans, htrunk])
    · obtain ⟨statement, hmem, hvoice⟩ := inPort_mem_of_last hlast
      exact h.joined hmem (PortStatement.mem_taggedVlans.mpr (Or.inr hvoice))
        (by simp [Action.namedVlans, hvoice])

/-- Without a native statement no port has a native VLAN. -/
theorem Coherent.nativeVlan_eq_none (h : Coherent as) (ordered : Ordered as) {record : Port}
    (hget : (replay start as).ports.get? port = some record) : record.nativeVlan = none := by
  rw [get?_ports_replay ordered] at hget
  split at hget
  · cases hget
    refine Replay.foldl_unchanged (f := Port.nativeVlan) (fun r s hs => ?_) _
    cases s with
    | native vlan => exact absurd (mem_statementsOf.mp hs) (h.native port vlan)
    | trunk vlans => rw [PortStatement.apply, foldl_addTrunkVlan]
    | power enabled kept => cases kept <;> rfl
    | _ => rfl
  · cases hget

end Ios

namespace ProCurve

variable {network : Network} {profile : SiteProfile}

/-- A port that is read back: its texts fit on a line each, and it has no voice VLAN. -/
structure PlainPort (port : Port) : Prop where
  short : AosCx.ShortPort port
  voice : port.voiceVlan = none

theorem PlainPort.onPort {s : VlanStatement} {vlan key : Text} {port : Port} (h : PlainPort port) :
    PlainPort (s.onPort vlan key port) := by
  rcases s.onPort_cases vlan key port with hsame | htrunk | htake
  · rwa [hsame]
  · rw [htrunk]
    exact ⟨⟨h.short.description, h.short.speed⟩, h.voice⟩
  · rw [htake]
    exact ⟨⟨h.short.description, h.short.speed⟩, h.voice⟩

theorem PlainPort.apply {kept : KeptStatement} (hkept : kept.Plain) {s : PortStatement}
    (hs : s ∈ keptStatements kept) {port : Port} (h : PlainPort port) : PlainPort (s.apply port) := by
  cases kept with
  | description text =>
    obtain rfl := List.mem_singleton.mp hs
    have hone : OneLine (withoutQuotes text) := OneLine.withoutQuotes (Significant.oneLine hkept)
    exact ⟨⟨fun _ e => Option.some.inj e ▸ hone, h.short.speed⟩, h.voice⟩
  | power enabled =>
    obtain rfl := List.mem_singleton.mp hs
    exact ⟨⟨h.short.description, h.short.speed⟩, h.voice⟩
  | shutdown =>
    rcases List.mem_pair.mp hs with rfl | rfl <;>
      exact ⟨⟨h.short.description, h.short.speed⟩, h.voice⟩

theorem plainPort_written (h : WritableNetwork network) (key : Text) :
    PlainPort (portAt (replay start (writtenActions network profile)) key) := by
  rw [portAt_replay]
  refine Replay.foldl_keeps (P := PlainPort) (fun r a ha hr => ?_) ⟨⟨by simp [portAt, start], rfl⟩, rfl⟩
  rw [writtenActions, List.mem_append, List.mem_append, List.mem_flatMap, List.mem_flatMap,
    List.mem_flatMap] at ha
  rcases ha with (⟨_, _, ha⟩ | ⟨vlan, _, ha⟩) | ⟨port, hport, ha⟩
  · obtain ⟨_, rfl⟩ := mem_deviceActions ha
    exact hr
  · rcases List.mem_cons.mp ha with rfl | ha
    · exact hr
    · obtain ⟨s, _, rfl⟩ := List.mem_map.mp ha
      exact hr.onPort
  · rcases mem_portActions ha with rfl | ⟨kept, hkept, s, hs, rfl⟩
    · exact hr
    · rw [Action.onPort]
      split
      · exact hr.apply ((h.ports port hport).kept kept hkept) hs
      · exact hr

theorem mem_untagged_written (keyed : network.Keyed) {port key : Text} :
    port ∈ (vlanAt (replay start (writtenActions network profile)) key).untagged ↔
      ∃ vlan, network.vlans.get? key = some vlan ∧ port ∈ vlan.untagged := by
  rw [vlanAt, vlans_written keyed, OrderedMap.get?_mapValues]
  cases network.vlans.get? key <;> simp

theorem mem_tagged_written (keyed : network.Keyed) {port key : Text} :
    port ∈ (vlanAt (replay start (writtenActions network profile)) key).tagged ↔
      ∃ vlan, network.vlans.get? key = some vlan ∧ port ∈ vlan.tagged := by
  rw [vlanAt, vlans_written keyed, OrderedMap.get?_mapValues]
  cases network.vlans.get? key <;> simp

end ProCurve

section

variable {text : Text} (coherent : Ios.Coherent (Ios.actions text)) (profile : SiteProfile)

include coherent

/-- A VLAN that lists a port untagged in the second configuration is its access VLAN. -/
theorem mem_untaggedBy_written {port vlan : Text} :
    vlan ∈ ProCurve.untaggedBy port (ProCurve.writtenActions (Ios.read text) profile) ↔
      Ios.lastAccess port (Ios.actions text) = some vlan := by
  rw [← ProCurve.mem_untagged_vlanAt, ProCurve.mem_untagged_written (Ios.keyed_read text),
    ← coherent.joined_untagged_iff, Ios.read_eq_replay]
  constructor
  · rintro ⟨record, hrecord, hport⟩
    exact (Ios.mem_untagged_iff hrecord port).mp hport
  · intro hj
    obtain ⟨record, hrecord⟩ :=
      OrderedMap.exists_get?_of_mem (Ios.mem_vlans_keys_replay.mpr hj.openVlan_mem)
    exact ⟨record, hrecord, (Ios.mem_untagged_iff hrecord port).mpr hj⟩

/-- The VLANs that list a port tagged in the second configuration are on its trunk or its voice. -/
theorem mem_taggedBy_written {port vlan : Text} :
    vlan ∈ ProCurve.taggedBy port (ProCurve.writtenActions (Ios.read text) profile) ↔
      Ios.OnTrunk (Ios.actions text) port vlan ∨
        Ios.lastVoice port (Ios.actions text) = some vlan := by
  rw [← ProCurve.mem_tagged_vlanAt, ProCurve.mem_tagged_written (Ios.keyed_read text),
    ← coherent.joined_tagged_iff, Ios.read_eq_replay]
  constructor
  · rintro ⟨record, hrecord, hport⟩
    exact (Ios.mem_tagged_iff hrecord port).mp hport
  · intro hj
    obtain ⟨record, hrecord⟩ :=
      OrderedMap.exists_get?_of_mem (Ios.mem_vlans_keys_replay.mpr hj.openVlan_mem)
    exact ⟨record, hrecord, (Ios.mem_tagged_iff hrecord port).mpr hj⟩

variable (fits : ∀ id ∈ (Ios.read text).ports.keys, Decimal.value id < Decimal.limit32)

include fits

/-- The second route reads a port back as the sets of the VLANs describe it. -/
theorem mirrors_written {key : Text} {port other : Port}
    (hport : (Ios.read text).ports.get? key = some port)
    (hother : (ProCurve.replay ProCurve.start
      (ProCurve.writtenActions (Ios.read text) profile)).ports.get? key = some other) :
    port.Mirrors other := by
  have huntagged : ∀ vlan, vlan ∈ ProCurve.untaggedBy key
      (ProCurve.writtenActions (Ios.read text) profile) ↔
        Ios.lastAccess key (Ios.actions text) = some vlan :=
    fun _ => mem_untaggedBy_written coherent profile
  have hplain : ProCurve.PlainPort (ProCurve.portAt (ProCurve.replay ProCurve.start
      (ProCurve.writtenActions (Ios.read text) profile)) key) :=
    ProCurve.plainPort_written (Ios.writable_read text fits) key
  have hat := ProCurve.portAt_of_get? hother
  have hread := hport
  rw [Ios.read_eq_replay] at hread
  obtain ⟨haccess, hvoice, htrunk⟩ := Ios.port_fields (Ios.ordered_actions text) hread
  constructor
  · rw [(ProCurve.keyed_replay _).ports key other hother, (Ios.keyed_read text).ports key port hport]
  · exact coherent.nativeVlan_eq_none (Ios.ordered_actions text) hread
  · rw [← hat, ProCurve.accessVlan_portAt, (Replay.ends_of_mem_iff huntagged).2, haccess]
  · rw [← hat, ProCurve.nativeVlan_portAt, (Replay.ends_of_mem_iff huntagged).1, haccess]
  · exact hat ▸ hplain.voice
  · intro vlan
    rw [← hat, ProCurve.mem_trunkVlans_portAt, mem_taggedBy_written coherent, hvoice, htrunk]

end

/-- Every port with a voice VLAN has trunk VLANs or is in access mode. -/
def VoiceCarried (network : Network) : Prop :=
  ∀ port ∈ network.ports.values, port.voiceVlan.isSome = true →
    port.trunkVlans ≠ [] ∨ port.isAccess = true

theorem vlanBlock_reread (profile : SiteProfile) (vlan : Vlan) :
    AosCx.vlanBlock profile { vlan with voice := vlan.isVoice profile } =
      AosCx.vlanBlock profile vlan := by
  have hvoice : Vlan.isVoice { vlan with voice := vlan.isVoice profile } profile =
      vlan.isVoice profile := by
    simp [Vlan.isVoice]
  rw [AosCx.vlanBlock, hvoice, AosCx.vlanBlock]

/-- On both routes every port is written with the same membership. -/
theorem sameMembership_routes {text : Text} (coherent : Ios.Coherent (Ios.actions text))
    (carried : VoiceCarried (Ios.read text))
    (fits : ∀ id ∈ (Ios.read text).ports.keys, Decimal.value id < Decimal.limit32)
    (profile : SiteProfile) :
    AosCx.SameMembership profile (AosCx.prepare (Ios.read text) profile)
      (AosCx.prepare (ProCurve.replay ProCurve.start
        (ProCurve.writtenActions (Ios.read text) profile)) profile) := by
  have keyed := Ios.keyed_read text
  have again := ProCurve.keyed_replay (ProCurve.writtenActions (Ios.read text) profile)
  have hvlans : (AosCx.prepare (ProCurve.replay ProCurve.start
      (ProCurve.writtenActions (Ios.read text) profile)) profile).vlans =
        (Ios.read text).vlans.mapValues fun vlan => { vlan with voice := vlan.isVoice profile } :=
    ProCurve.vlans_written keyed
  constructor
  · rw [hvlans, OrderedMap.values_mapValues, List.map_map]
    exact .refl _
  · intro v hv w hw hid
    rw [hvlans, OrderedMap.values_mapValues] at hw
    obtain ⟨u, hu, rfl⟩ := List.mem_map.mp hw
    rw [OrderedMap.eq_of_key_eq keyed.vlans hv hu hid, vlanBlock_reread]
  · rw [portIds_prepare keyed, portIds_prepare again,
      List.perm_ext_iff_of_nodup (OrderedMap.nodup_keys _) (OrderedMap.nodup_keys _)]
    exact fun id => (ProCurve.mem_ports_keys_written keyed (Ios.members_read text)).symm
  · intro p hp q hq hid
    obtain ⟨key, port, hport, rfl⟩ := mem_values_prepare hp
    obtain ⟨key', other, hother, rfl⟩ := mem_values_prepare hq
    rw [id_withVoiceNative, id_withVoiceNative, keyed.ports key port hport,
      again.ports key' other hother] at hid
    subst hid
    have hmirrors := mirrors_written coherent profile fits hport hother
    have hios : (AosCx.prepare (Ios.read text) profile).source = .ios := Ios.source_read text
    have hproCurve : (AosCx.prepare (ProCurve.replay ProCurve.start
        (ProCurve.writtenActions (Ios.read text) profile)) profile).source = .proCurve :=
      ProCurve.source_replay ProCurve.start _
    rw [hios, hproCurve, Port.membership_withVoiceNative, Port.membership_withVoiceNative]
    have hcarried := carried port (OrderedMap.mem_values_iff.mpr ⟨key, hport⟩)
    exact (hmirrors.membership_eq hcarried profile).symm

/-- On the first route all texts fit on a line each. -/
theorem shortNetwork_read {text : Text}
    (fits : ∀ id ∈ (Ios.read text).ports.keys, Decimal.value id < Decimal.limit32)
    (profile : SiteProfile) : AosCx.ShortNetwork (AosCx.prepare (Ios.read text) profile) :=
  shortNetwork_prepare (Ios.writable_read text fits).device (fun _ _ => Ios.shortPort_read) profile

/-- On the second route all texts fit on a line each. -/
theorem shortNetwork_written {network : Network} (h : ProCurve.WritableNetwork network)
    (profile : SiteProfile) :
    AosCx.ShortNetwork (AosCx.prepare (ProCurve.replay ProCurve.start
      (ProCurve.writtenActions network profile)) profile) := by
  constructor
  · intro name hname
    have hread := ProCurve.hostname?_written.symm.trans hname
    obtain ⟨written, hwritten, rfl⟩ := Option.map_eq_some_iff.mp hread
    have hone := oneLine_hostname? (fun s hs => (h.device s hs).fits) hwritten
    exact hone.of_subset fun _ => mem_of_mem_stripEnds
  · intro place hplace
    have hread := ProCurve.location?_written.symm.trans hplace
    obtain ⟨written, hwritten, rfl⟩ := Option.map_eq_some_iff.mp hread
    have hone := oneLine_location? (fun s hs => (h.device s hs).fits) hwritten
    exact hone.withoutQuotes.quoted
  · intro port hmem
    obtain ⟨key, record, hrecord, rfl⟩ := mem_values_prepare hmem
    have hplain : ProCurve.PlainPort (ProCurve.portAt (ProCurve.replay ProCurve.start
        (ProCurve.writtenActions network profile)) key) := ProCurve.plainPort_written h key
    rw [ProCurve.portAt_of_get? hrecord] at hplain
    exact shortPort_withVoiceNative hplain.short profile

/-- The direct route and the one over ProCurve write the same statements about VLANs for each port. -/
theorem routes_agree (text : Text) (profile : SiteProfile)
    (coherent : Ios.Coherent (Ios.actions text)) (carried : VoiceCarried (Ios.read text))
    (fits : ∀ id ∈ (Ios.read text).ports.keys, Decimal.value id < Decimal.limit32) (id : Text) :
    AosCx.membershipOf profile id (Direction.iosToAosCx.translate text profile).output =
      AosCx.membershipOf profile id (Direction.proCurveToAosCx.translate
        (Direction.iosToProCurve.translate text profile).output profile).output := by
  rw [Direction.output_translate, Direction.output_translate, Direction.output_translate]
  simp only [Direction.read, Direction.write]
  rw [read_write_eq_replay text profile fits, AosCx.write, AosCx.write]
  exact AosCx.membershipOf_render_eq (sameMembership_routes coherent carried fits profile)
    (shortNetwork_read fits profile) (shortNetwork_written (Ios.writable_read text fits) profile) id

/-- The condition on declared VLANs, checked at each place of a list of actions. -/
theorem Ios.declared_of_take {as : List Ios.Action}
    (h : ∀ i ∈ List.range as.length, ∀ vlan ∈ (as[i]?.map Ios.Action.namedVlans).getD [],
      vlan ∈ (Ios.replay Ios.start (as.take i)).vlans.keys) :
    ∀ before a after, as = before ++ a :: after →
      ∀ vlan ∈ a.namedVlans, vlan ∈ (Ios.replay Ios.start before).vlans.keys := by
  intro before a after has vlan hvlan
  have hat : as[before.length]? = some a := by simp [has]
  have htake : as.take before.length = before := by simp [has]
  have hlt : before.length < as.length := by simp [has]
  rw [← htake]
  exact h before.length (List.mem_range.mpr hlt) vlan (by simpa [hat] using hvlan)

theorem branchOffice_routes_agree :
    Ios.Coherent (Ios.actions branchOffice) ∧ VoiceCarried (Ios.read branchOffice) ∧
      (∀ id ∈ (Ios.read branchOffice).ports.keys, Decimal.value id < Decimal.limit32) ∧
      AosCx.membershipOf .default "2".toList
        (Direction.iosToAosCx.translate branchOffice .default).output =
          ["    vlan trunk native 10".toList, "    vlan trunk allowed 10,901".toList] ∧
      AosCx.membershipOf .default "2".toList (Direction.proCurveToAosCx.translate
        (Direction.iosToProCurve.translate branchOffice .default).output .default).output =
          ["    vlan trunk native 10".toList, "    vlan trunk allowed 10,901".toList] := by
  have hactions : Ios.actions branchOffice =
      [.openVlan "10".toList, .inVlan "10".toList (.name "staff".toList), .openVlan "901".toList,
        .openPort "2".toList, .inPort "2".toList (.description "\"desk\" exit".toList),
        .inPort "2".toList (.access "10".toList), .inPort "2".toList (.voice "901".toList),
        .inPort "2".toList .shut] := by decide +kernel
  have coherent : Ios.Coherent (Ios.actions branchOffice) := by
    rw [hactions]
    constructor
    · exact Ios.declared_of_take (by decide +kernel)
    · intro port vlan other hvlan hother
      simp only [List.mem_cons, List.not_mem_nil, reduceCtorEq, Ios.Action.inPort.injEq,
        Ios.PortStatement.access.injEq, and_false, false_or, or_false] at hvlan hother
      rw [hvlan.2, hother.2]
    · intro port vlan other hvlan hother
      simp only [List.mem_cons, List.not_mem_nil, reduceCtorEq, Ios.Action.inPort.injEq,
        Ios.PortStatement.voice.injEq, and_false, false_or, or_false] at hvlan hother
      rw [hvlan.2, hother.2]
    · intro port vlan hmem
      simp at hmem
  have carried : VoiceCarried (Ios.read branchOffice) := by
    unfold VoiceCarried
    rw [Ios.read_eq_replay, hactions]
    decide +kernel
  have fits : ∀ id ∈ (Ios.read branchOffice).ports.keys,
      Decimal.value id < Decimal.limit32 := by
    rw [Ios.read_eq_replay, hactions]
    decide +kernel
  have hdirect : AosCx.membershipOf .default "2".toList
      (Direction.iosToAosCx.translate branchOffice .default).output =
        ["    vlan trunk native 10".toList, "    vlan trunk allowed 10,901".toList] := by
    rw [Direction.output_translate, Direction.read, Ios.read_eq_replay, hactions]
    decide +kernel
  have hagree := routes_agree branchOffice .default coherent carried fits "2".toList
  exact ⟨coherent, carried, fits, hdirect, hagree.symm.trans hdirect⟩

end SwitchDialects
