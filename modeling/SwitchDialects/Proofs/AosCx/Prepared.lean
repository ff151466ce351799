import SwitchDialects.Proofs.AosCx.Blocks
import SwitchDialects.Proofs.Outline
import SwitchDialects.Proofs.Text.LetterCase
import SwitchDialects.Network

/-!
# Networks prepared for AOS-CX

Before a network is written its voice ports take a native VLAN. This changes neither the identifiers
of the ports nor the statements about their VLANs, for a trunk without a native VLAN would have
taken the access VLAN in any case. What is written is a text whose lines are those of the outline,
and the block of a port in it holds what was written for this port.
-/

namespace SwitchDialects

open Text

namespace Port

/-- What does not depend on the native VLAN is not changed by taking one. -/
theorem same_withVoiceNative {β : Type} {f : Port → β}
    (hf : ∀ (p : Port) (native : Option Text), f { p with nativeVlan := native } = f p)
    (port : Port) (profile : SiteProfile) : f (port.withVoiceNative profile) = f port := by
  rw [withVoiceNative]
  split
  · exact hf port port.accessVlan
  · rfl

theorem accessVlan_withVoiceNative (port : Port) (profile : SiteProfile) :
    (port.withVoiceNative profile).accessVlan = port.accessVlan :=
  same_withVoiceNative (fun _ _ => rfl) port profile

theorem membership_withVoiceNative (port : Port) (profile : SiteProfile) (source : Dialect) :
    (port.withVoiceNative profile).membership source profile = port.membership source profile := by
  have hallowed : (port.withVoiceNative profile).allowedVlans = port.allowedVlans :=
    same_withVoiceNative (fun _ _ => rfl) port profile
  have hwants : (port.withVoiceNative profile).wantsTrunk source profile =
      port.wantsTrunk source profile :=
    same_withVoiceNative (f := (wantsTrunk · source profile)) (fun _ _ => rfl) port profile
  rw [membership, membership, hallowed, hwants, accessVlan_withVoiceNative,
    trunkNative_withVoiceNative]

end Port

theorem mem_values_prepare {network : Network} {profile : SiteProfile} {port : Port}
    (h : port ∈ (AosCx.prepare network profile).ports.values) :
    ∃ key record, network.ports.get? key = some record ∧ port = record.withVoiceNative profile := by
  rw [AosCx.prepare, OrderedMap.values_mapValues] at h
  obtain ⟨record, hrecord, rfl⟩ := List.mem_map.mp h
  obtain ⟨key, hkey⟩ := OrderedMap.mem_values_iff.mp hrecord
  exact ⟨key, record, hkey, rfl⟩

theorem id_withVoiceNative (port : Port) (profile : SiteProfile) :
    (port.withVoiceNative profile).id = port.id :=
  Port.same_withVoiceNative (fun _ _ => rfl) port profile

theorem portIds_prepare {network : Network} (keyed : network.Keyed) (profile : SiteProfile) :
    (AosCx.prepare network profile).ports.values.map Port.id = network.ports.keys := by
  rw [AosCx.prepare, OrderedMap.values_mapValues, List.map_map,
    ← OrderedMap.map_values_eq_keys keyed.ports]
  exact List.map_congr_left fun port _ => id_withVoiceNative port profile

theorem shutdown_withVoiceNative (port : Port) (profile : SiteProfile) :
    (port.withVoiceNative profile).shutdown = port.shutdown :=
  Port.same_withVoiceNative (fun _ _ => rfl) port profile

theorem powerOutput_withVoiceNative (port : Port) (profile : SiteProfile) :
    (port.withVoiceNative profile).powerOutput = port.powerOutput :=
  Port.same_withVoiceNative (fun _ _ => rfl) port profile

theorem shortPort_withVoiceNative {port : Port} (h : AosCx.ShortPort port) (profile : SiteProfile) :
    AosCx.ShortPort (port.withVoiceNative profile) := by
  rw [Port.withVoiceNative]
  split
  · exact ⟨h.description, h.speed⟩
  · exact h

/-- The name or the location that a statement gives the device fits on a line. -/
def DeviceStatement.Fits : DeviceStatement → Prop
  | .hostname name => OneLine name
  | .location text => OneLine text
  | _ => True

theorem oneLine_hostname? {network : Network} (h : ∀ s ∈ network.device, s.Fits) {name : Text}
    (hname : network.hostname? = some name) : OneLine name := by
  obtain ⟨statement, hmem, hs⟩ := List.exists_of_findSome?_eq_some hname
  have hfits := h statement (List.mem_reverse.mp hmem)
  cases statement <;> cases hs
  exact hfits

theorem oneLine_location? {network : Network} (h : ∀ s ∈ network.device, s.Fits) {place : Text}
    (hplace : network.location? = some place) : OneLine place := by
  obtain ⟨statement, hmem, hs⟩ := List.exists_of_findSome?_eq_some hplace
  have hfits := h statement hmem
  cases statement <;> cases hs
  exact hfits

/-- Taking the access VLAN for a native one adds no VLAN to the fields of a port. -/
theorem holds_withVoiceNative {port : Port} {profile : SiteProfile} {vlan : Text}
    (h : AosCx.Holds (port.withVoiceNative profile) vlan) : AosCx.Holds port vlan := by
  rw [Port.withVoiceNative] at h
  split at h
  · cases h with
    | native h => exact .access h
    | access h => exact .access h
    | voice h => exact .voice h
    | trunk h => exact .trunk h
  · exact h

theorem AosCx.FittingPort.withVoiceNative {port : Port} (h : AosCx.FittingPort port)
    (profile : SiteProfile) : AosCx.FittingPort (port.withVoiceNative profile) := by
  have hvlans : ∀ vlan, AosCx.Holds (port.withVoiceNative profile) vlan → OneLine vlan :=
    fun vlan hvlan => h.vlans vlan (holds_withVoiceNative hvlan)
  by_cases hlacks : port.lacksVoiceNative profile = true
  · rw [Port.withVoiceNative, if_pos hlacks] at hvlans ⊢
    exact ⟨h.id, h.description, h.speed, hvlans⟩
  · rw [Port.withVoiceNative, if_neg hlacks]
    exact h

theorem AosCx.FittingNetwork.prepare {network : Network} (h : AosCx.FittingNetwork network)
    (profile : SiteProfile) : AosCx.FittingNetwork (AosCx.prepare network profile) where
  hostname := h.hostname
  location := h.location
  vlans := h.vlans
  ports port hport := by
    obtain ⟨key, record, hget, rfl⟩ := mem_values_prepare hport
    exact (h.ports record (OrderedMap.mem_values_iff.mpr ⟨key, hget⟩)).withVoiceNative profile

namespace AosCx

variable {network : Network} {profile : SiteProfile}

theorem oneLine_deviceLines (fitting : FittingNetwork network) :
    ∀ line ∈ deviceLines network, OneLine line.text := by
  intro line hline
  rw [deviceLines, List.mem_append, Option.mem_toList, Option.mem_toList,
    Option.map_eq_some_iff, Option.map_eq_some_iff] at hline
  rcases hline with ⟨name, hname, rfl⟩ | ⟨text, htext, rfl⟩
  · exact OneLine.append (by decide) (fitting.hostname name hname)
  · exact OneLine.append (by decide) (fitting.location text htext)

theorem oneLine_vlanBlock {vlan : Vlan} (hid : OneLine vlan.id)
    (hname : ∀ name, vlan.name = some name → OneLine name) :
    ∀ line ∈ vlanBlock profile vlan, OneLine line.text := by
  intro line hline
  rw [vlanBlock, List.mem_append, List.mem_append, List.mem_singleton, Option.mem_toList,
    Option.map_eq_some_iff] at hline
  rcases hline with (rfl | ⟨name, hn, rfl⟩) | hvoice
  · exact OneLine.append (by decide) hid
  · exact OneLine.append (by decide) (hname name hn)
  · split at hvoice
    · rw [List.mem_singleton.mp hvoice]
      decide
    · cases hvoice

theorem oneLine_speedLine {setting : Text} (h : OneLine setting) : OneLine (speedLine setting) := by
  have hrates : ∀ rate ∈ offeredRates, OneLine rate.2 := by decide
  simp only [speedLine]
  split
  · refine OneLine.append (by decide) fun hmem => ?_
    obtain ⟨rate, hrate, hc⟩ := List.mem_flatMap.mp hmem
    rcases List.mem_cons.mp hc with hc | hc
    · exact absurd hc (by decide)
    · exact hrates rate (List.mem_of_mem_filter hrate) hc
  · exact OneLine.append (by decide) h.lower

theorem oneLine_settingLines {port : Port} (h : FittingPort port) :
    ∀ t ∈ settingLines port, OneLine t := by
  intro t ht
  simp only [settingLines, List.append_assoc, List.mem_append, Option.mem_toList,
    Option.map_eq_some_iff] at ht
  rcases ht with ht | ht | ⟨text, htext, rfl⟩ | ht | ⟨setting, hsetting, rfl⟩
  · cases hs : port.shutdown <;> rw [hs] at ht <;> cases ht <;> decide
  · split at ht
    · rw [List.mem_singleton.mp ht]
      decide
    · cases ht
  · exact OneLine.append (by decide) (h.description text htext)
  · rw [Port.powerLine?] at ht
    split at ht <;> cases ht <;> decide
  · exact oneLine_speedLine (h.speed setting hsetting)

theorem oneLine_portBlock {source : Dialect} {port : Port} (h : FittingPort port)
    (hstem : OneLine profile.portStem) (hsite : OneLine profile.nativeVlan) :
    ∀ line ∈ portBlock source profile port, OneLine line.text := by
  intro line hline
  rcases List.mem_cons.mp hline with rfl | hline
  · exact OneLine.append (OneLine.append (by decide) hstem) h.id
  · obtain ⟨t, ht, rfl⟩ := List.mem_map.mp hline
    rw [portLines_eq, List.mem_append] at ht
    rcases ht with ht | ht
    · exact oneLine_settingLines h t ht
    · exact oneLine_membershipLines h.vlans hsite t ht

/-- No line of a configuration spans two lines of its text. -/
theorem oneLine_outline (fitting : FittingNetwork network) (hstem : OneLine profile.portStem)
    (hsite : OneLine profile.nativeVlan) :
    ∀ line ∈ outline network profile, OneLine line.text := by
  intro line hline
  simp only [outline, List.mem_append, List.mem_flatMap] at hline
  rcases hline with ((hline | ⟨vlan, hvlan, hline⟩) | hline) | ⟨port, hport, hline⟩
  · exact oneLine_deviceLines fitting line hline
  · have hv := fitting.vlans vlan ((NumericOrder.sortBy_perm Vlan.id _).mem_iff.mp hvlan)
    exact oneLine_vlanBlock hv.1 hv.2 line hline
  · exact (by decide : ∀ l ∈ [Line.flush "spanning-tree mode rpvst".toList,
      .flush "spanning-tree".toList], OneLine l.text) line hline
  · have hmem := (NumericOrder.sortBy_perm Port.id _).mem_iff.mp hport
    exact oneLine_portBlock (fitting.ports port hmem) hstem hsite line hline

/-- The lines of the text are those of the configuration. -/
theorem splitOn_write (fitting : FittingNetwork network) (hstem : OneLine profile.portStem)
    (hsite : OneLine profile.nativeVlan) :
    (write network profile).splitOn '\n' =
      (outline (prepare network profile) profile).map (Line.render indent) :=
  Outline.splitOn_render (by simp [outline])
    (oneLine_outline (fitting.prepare profile) hstem hsite)

/-- The lines before those of the ports. -/
def front (network : Network) (profile : SiteProfile) : List Line :=
  deviceLines network ++
    (NumericOrder.sortBy Vlan.id network.vlans.values).flatMap (vlanBlock profile) ++
    [.flush "spanning-tree mode rpvst".toList, .flush "spanning-tree".toList]

theorem outline_eq_blocks (network : Network) (profile : SiteProfile) :
    outline network profile = front network profile ++
      (NumericOrder.sortBy Port.id network.ports.values).flatMap
        (Outline.block (fun port => portHeader profile port.id)
          (portLines network.source profile)) := rfl

theorem head?_portHeader (profile : SiteProfile) (id : Text) :
    (portHeader profile id).head? ≠ some ' ' := by
  intro h
  cases h

/-- No line before those of the ports is the header of one or a statement about its VLANs. -/
theorem quiet_of_mem_front {line : Line} (h : line ∈ front network profile) :
    (∀ id, line ≠ .flush (portHeader profile id)) ∧ isMembership (line.render indent) = false := by
  simp only [front, deviceLines, vlanBlock, List.mem_append, List.mem_flatMap, Option.mem_toList,
    Option.map_eq_some_iff, List.mem_cons, List.not_mem_nil, or_false] at h
  rcases h with ((⟨name, _, rfl⟩ | ⟨text, _, rfl⟩) | ⟨vlan, _, (rfl | ⟨name, _, rfl⟩) | hvoice⟩) |
    rfl | rfl
  case inl.inr.inr =>
    split at hvoice
    · obtain rfl := List.mem_singleton.mp hvoice
      refine ⟨fun _ hsame => ?_, rfl⟩
      cases hsame
    · cases hvoice
  all_goals
    refine ⟨fun _ hsame => ?_, rfl⟩
    cases hsame

/-- The header of a port stands in the outline exactly if there is such a port. -/
theorem portHeader_mem_outline {id : Text} :
    .flush (portHeader profile id) ∈ outline network profile ↔
      id ∈ network.ports.values.map Port.id := by
  rw [outline_eq_blocks, List.mem_append, Outline.flush_mem_blocks, List.mem_map]
  constructor
  · rintro (h | ⟨port, hport, hheader⟩)
    · exact absurd rfl ((quiet_of_mem_front h).1 id)
    · exact ⟨port, (NumericOrder.sortBy_perm Port.id _).mem_iff.mp hport,
        List.append_cancel_left hheader⟩
  · rintro ⟨port, hport, rfl⟩
    exact Or.inr ⟨port, (NumericOrder.sortBy_perm Port.id _).mem_iff.mpr hport, rfl⟩

/-- The block of a port in the outline is what was written for this port. -/
theorem membersUnder_outline (profile : SiteProfile)
    (distinct : (network.ports.values.map Port.id).Nodup) {port : Port}
    (hport : port ∈ network.ports.values) :
    Outline.membersUnder (portHeader profile port.id) (outline network profile) =
      portLines network.source profile port := by
  have hmem (p : Port) : p ∈ NumericOrder.sortBy Port.id network.ports.values ↔
      p ∈ network.ports.values := (NumericOrder.sortBy_perm Port.id _).mem_iff
  rw [outline_eq_blocks]
  refine Outline.membersUnder_blocks (fun p => portHeader profile p.id) _
    ((hmem port).mpr hport) (fun h => (quiet_of_mem_front h).1 port.id rfl) fun p hp hheader => ?_
  exact List.inj_on_of_nodup_map distinct ((hmem p).mp hp) hport (List.append_cancel_left hheader)

/-- The block of a port in the outline of a network is made from its record. -/
theorem membersUnder_prepare {network : Network} (keyed : network.Keyed) (profile : SiteProfile)
    (id : Text) :
    Outline.membersUnder (portHeader profile id) (outline (prepare network profile) profile) =
      ((network.ports.get? id).map fun port =>
        portLines network.source profile (port.withVoiceNative profile)).getD [] := by
  have hids := portIds_prepare keyed profile
  cases hget : network.ports.get? id with
  | none =>
    refine Outline.membersUnder_eq_nil fun hheader => ?_
    rw [portHeader_mem_outline, hids] at hheader
    exact OrderedMap.get?_eq_none_iff.mp hget hheader
  | some port =>
    have hmem : port.withVoiceNative profile ∈ (prepare network profile).ports.values := by
      rw [prepare, OrderedMap.values_mapValues]
      exact List.mem_map_of_mem (OrderedMap.mem_values_iff.mpr ⟨id, hget⟩)
    have hblock := membersUnder_outline profile
      (hids ▸ OrderedMap.nodup_keys network.ports) hmem
    rw [id_withVoiceNative, keyed.ports id port hget] at hblock
    exact hblock

/-- A line at the margin does not start with a space. -/
theorem head?_of_flush {t : Text} (h : .flush t ∈ outline network profile) :
    t.head? ≠ some ' ' := by
  simp only [outline, deviceLines, vlanBlock, portBlock, List.mem_append, List.mem_flatMap,
    Option.mem_toList, Option.map_eq_some_iff, List.mem_cons, List.not_mem_nil, or_false] at h
  rcases h with (((⟨name, _, h⟩ | ⟨place, _, h⟩) | ⟨vlan, _, (h | ⟨name, _, h⟩) | h⟩) | h | h) |
    ⟨port, _, h | h⟩
  case inl.inl.inr.inr => split at h <;> simp at h
  case inr.inr => simp at h
  all_goals cases h
  all_goals exact fun hspace => by cases hspace

/-- What is found in the text is what stands in the outline. -/
theorem blockOf_write (fitting : FittingNetwork network) (hstem : OneLine profile.portStem)
    (hsite : OneLine profile.nativeVlan) (id : Text) :
    Outline.blockOf indent (portHeader profile id) (write network profile) =
      Outline.membersUnder (portHeader profile id)
        (outline (prepare network profile) profile) :=
  Outline.blockOf_render (by decide) (by simp [outline])
    (oneLine_outline (fitting.prepare profile) hstem hsite) (fun _ => head?_of_flush)
    (head?_portHeader profile id)

end AosCx

end SwitchDialects
