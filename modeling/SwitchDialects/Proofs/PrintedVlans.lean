import SwitchDialects.Proofs.Ios.Wording
import SwitchDialects.Proofs.Membership
import SwitchDialects.Proofs.PortState

/-!
# The VLANs that AOS-CX is told

Every statement about VLANs in an AOS-CX text stands in the block of a port, and its VLANs were named
by the lines of this port: an access VLAN by its last access statement, a native VLAN by its last
native or else its last access statement, and the VLANs of a trunk by its accepted lists, its last
access and its last voice statement. Only the lists are checked, so a last word may be anything.
Nothing is said here about a number that an accepted list writes with a blank inside.
-/

namespace SwitchDialects

open Text

namespace AosCx

section

variable {source : Dialect} {profile : SiteProfile} {port : Port} {vlan list : Text}

/-- A statement about VLANs in the block of a port is one of these three. -/
theorem vlanLine_cases {t : Text} (short : ShortPort port)
    (ht : t ∈ portLines source profile port) (hvlan : "vlan ".toList.isPrefixOf t = true) :
    (port.IsTrunk source profile ∧
      (t = "vlan trunk native ".toList ++ port.trunkNative profile ∨
        t = "vlan trunk allowed ".toList ++ joinWith [','] port.allowedVlans)) ∨
    ∃ access, port.accessVlan = some access ∧ t = "vlan access ".toList ++ access := by
  have hline := mem_membershipLines short ht hvlan
  by_cases htrunk : port.IsTrunk source profile
  · rw [Port.membership_of_isTrunk htrunk] at hline
    exact .inl ⟨htrunk, List.mem_pair.mp hline⟩
  · rw [Port.membership_of_not_isTrunk htrunk] at hline
    cases haccess : port.accessVlan with
    | none =>
      rw [haccess] at hline
      cases hline
    | some access =>
      rw [haccess] at hline
      exact .inr ⟨access, rfl, List.mem_singleton.mp hline⟩

theorem accessVlan_of_mem_portLines (short : ShortPort port)
    (h : "vlan access ".toList ++ vlan ∈ portLines source profile port) :
    port.accessVlan = some vlan := by
  rcases vlanLine_cases short h rfl with ⟨-, hsame | hsame⟩ | ⟨access, haccess, hsame⟩
  · cases hsame
  · cases hsame
  · rw [haccess, List.append_cancel_left hsame]

theorem trunkNative_of_mem_portLines (short : ShortPort port)
    (h : "vlan trunk native ".toList ++ vlan ∈ portLines source profile port) :
    vlan = port.trunkNative profile := by
  rcases vlanLine_cases short h rfl with ⟨-, hsame | hsame⟩ | ⟨access, -, hsame⟩
  · exact List.append_cancel_left hsame
  · cases hsame
  · cases hsame

theorem inVlan_of_mem_portLines (short : ShortPort port)
    (h : "vlan trunk allowed ".toList ++ list ∈ portLines source profile port)
    (hvlan : vlan ∈ list.splitOn ',') :
    ∃ held, port.InVlan held ∧ vlan ∈ held.splitOn ',' := by
  rcases vlanLine_cases short h rfl with ⟨htrunk, hsame | hsame⟩ | ⟨access, -, hsame⟩
  · cases hsame
  · rw [List.append_cancel_left hsame, splitOn_joinWith htrunk.1, List.mem_flatMap] at hvlan
    obtain ⟨held, hheld, hpiece⟩ := hvlan
    exact ⟨held, Port.mem_allowedVlans.mp hheld, hpiece⟩
  · cases hsame

end

variable {network : Network} {profile : SiteProfile}

/-- Only the statements about the VLANs of ports look like such statements. -/
theorem of_isMembership_render {line : Line}
    (hline : line ∈ outline network profile) (h : isMembership (line.render indent) = true) :
    ∃ port ∈ network.ports.values,
      ∃ t ∈ portLines network.source profile port, line = .member t := by
  rw [outline_eq_blocks, List.mem_append, List.mem_flatMap] at hline
  rcases hline with hline | ⟨port, hport, hline⟩
  · rw [(quiet_of_mem_front hline).2] at h
    cases h
  · have hmem := (NumericOrder.sortBy_perm Port.id _).mem_iff.mp hport
    rcases List.mem_cons.mp hline with rfl | hline
    · cases h
    · obtain ⟨t, ht, rfl⟩ := List.mem_map.mp hline
      exact ⟨port, hmem, t, ht, rfl⟩

end AosCx

theorem Port.inVlan_withVoiceNative {port : Port} {profile : SiteProfile} {vlan : Text} :
    (port.withVoiceNative profile).InVlan vlan ↔ port.InVlan vlan :=
  Iff.of_eq (same_withVoiceNative (f := (InVlan · vlan)) (fun _ _ => rfl) port profile)

/-- The VLANs in the block of a port are those that the lines of the port name. -/
structure VlansNamed (text id : Text) (block : List Text) : Prop where
  access : ∀ vlan, "vlan access ".toList ++ vlan ∈ block →
    Ios.VlanKeyword.access.last? id text = some vlan
  /-- A trunk for which no line names a VLAN has the native VLAN of the site. -/
  native : ∀ vlan, "vlan trunk native ".toList ++ vlan ∈ block →
    (Ios.VlanKeyword.native.last? id text).or (Ios.VlanKeyword.access.last? id text) = some vlan ∨
      (Ios.VlanKeyword.native.last? id text).or (Ios.VlanKeyword.access.last? id text) = none ∧
        NumberList.IsVlanId vlan
  allowed : ∀ list, "vlan trunk allowed ".toList ++ list ∈ block → ∀ vlan ∈ list.splitOn ',',
    (∀ named ∈ Ios.acceptedLists id text, NumberList.breaks named vlan = false) →
      NumberList.IsVlanId vlan ∨ ∃ word, vlan ∈ word.splitOn ',' ∧
        (Ios.VlanKeyword.access.last? id text = some word ∨
          Ios.VlanKeyword.voice.last? id text = some word)

section

variable {text id : Text} {record : Port}
  (hget : (Ios.read text).ports.get? id = some record)

include hget

/-- A VLAN from an accepted list has no comma, so it stands in the written list as it is. -/
theorem isVlanId_or_word_of_inVlan {held vlan : Text} (hheld : record.InVlan held)
    (hvlan : vlan ∈ held.splitOn ',')
    (whole : ∀ named ∈ Ios.acceptedLists id text, NumberList.breaks named vlan = false) :
    NumberList.IsVlanId vlan ∨ ∃ word, vlan ∈ word.splitOn ',' ∧
      (Ios.VlanKeyword.access.last? id text = some word ∨
        Ios.VlanKeyword.voice.last? id text = some word) := by
  obtain ⟨-, htrunk | haccess | hvoice⟩ := hheld
  · obtain ⟨list, hlist, hmem⟩ := (Ios.mem_trunkVlans_iff_accepted hget).mp htrunk
    have hcomma : ',' ∉ held := fun h => (NumberList.of_mem_member hmem h).elim
      (fun h => h.2 rfl) (fun h => absurd h (by decide))
    rw [List.splitOn_eq_singleton hcomma, List.mem_singleton] at hvlan
    subst hvlan
    have haccepts := Ios.accepts_of_mem_acceptedLists hlist
    exact .inl (NumberList.isVlanId_of_not_breaks haccepts (whole list hlist) hmem)
  · exact .inr ⟨held, hvlan, .inl (Ios.accessVlan_eq_last? hget ▸ haccess)⟩
  · exact .inr ⟨held, hvlan, .inr (Ios.voiceVlan_eq_last? hget ▸ hvoice)⟩

theorem vlansNamed_portLines :
    VlansNamed text id (AosCx.portLines .ios .default (record.withVoiceNative .default)) := by
  have short := shortPort_withVoiceNative (Ios.shortPort_read hget) .default
  constructor
  case access =>
    intro vlan hvlan
    have haccess := AosCx.accessVlan_of_mem_portLines short hvlan
    rwa [Port.accessVlan_withVoiceNative, Ios.accessVlan_eq_last? hget] at haccess
  case native =>
    intro vlan hvlan
    have hnative := AosCx.trunkNative_of_mem_portLines short hvlan
    rw [Port.trunkNative_withVoiceNative, Port.trunkNative, Ios.nativeVlan_eq_last? hget,
      Ios.accessVlan_eq_last? hget] at hnative
    subst hnative
    cases (Ios.VlanKeyword.native.last? id text).or (Ios.VlanKeyword.access.last? id text) with
    | none => exact .inr ⟨rfl, by decide⟩
    | some word => exact .inl rfl
  case allowed =>
    intro list hlist vlan hvlan whole
    obtain ⟨held, hheld, hpiece⟩ := AosCx.inVlan_of_mem_portLines short hlist hvlan
    exact isVlanId_or_word_of_inVlan hget (Port.inVlan_withVoiceNative.mp hheld) hpiece whole

end

/-- Under the default profile a statement about VLANs stands in the block of a port, and the lines of
this port name what it tells. -/
theorem printed_vlans_named (text : Text) :
    (∀ line ∈ (Direction.iosToAosCx.translate text .default).output.splitOn '\n',
      AosCx.isMembership line = true → ∃ id ∈ (Ios.read text).ports.keys,
        ∃ t ∈ Outline.blockOf AosCx.indent (AosCx.portHeader .default id)
          (Direction.iosToAosCx.translate text .default).output, line = "    ".toList ++ t) ∧
    ∀ id ∈ (Ios.read text).ports.keys,
      VlansNamed text id (Outline.blockOf AosCx.indent (AosCx.portHeader .default id)
        (Direction.iosToAosCx.translate text .default).output) := by
  constructor
  · intro line hline hmembership
    have hstem : OneLine SiteProfile.default.portStem := by decide
    have hlines := AosCx.splitOn_write (Ios.fitting text) hstem (by decide)
    rw [Direction.output_translate, Direction.read, Direction.write, hlines] at hline
    obtain ⟨written, hwritten, rfl⟩ := List.mem_map.mp hline
    obtain ⟨port, hport, t, ht, rfl⟩ :=
      AosCx.of_isMembership_render hwritten hmembership
    obtain ⟨id, record, hget, rfl⟩ := mem_values_prepare hport
    refine ⟨id, OrderedMap.mem_keys_of_get? hget, t, ?_, rfl⟩
    rw [aosCx_block hget (by decide) (by decide)]
    exact Ios.source_read text ▸ ht
  · intro id hid
    obtain ⟨record, hget⟩ := OrderedMap.exists_get?_of_mem hid
    rw [aosCx_block hget (by decide) (by decide)]
    exact vlansNamed_portLines hget

/-- An access port that is a trunk by its list, one number of which is in a range. -/
def rangeTrunk : Text :=
  "interface Gi0/2\n switchport access vlan 7\n switchport trunk allowed vlan 10, 20 - 21".toList

theorem rangeTrunk_vlans_named :
    "2".toList ∈ (Ios.read rangeTrunk).ports.keys ∧
      "vlan trunk allowed 7,10,20,21".toList ∈
        Outline.blockOf AosCx.indent (AosCx.portHeader .default "2".toList)
          (Direction.iosToAosCx.translate rangeTrunk .default).output ∧
      (∀ named ∈ Ios.acceptedLists "2".toList rangeTrunk,
        NumberList.breaks named "21".toList = false) ∧
      (NumberList.IsVlanId "21".toList ∨ ∃ word, "21".toList ∈ word.splitOn ',' ∧
        (Ios.VlanKeyword.access.last? "2".toList rangeTrunk = some word ∨
          Ios.VlanKeyword.voice.last? "2".toList rangeTrunk = some word)) := by
  have hid : "2".toList ∈ (Ios.read rangeTrunk).ports.keys := by decide +kernel
  have hline : "vlan trunk allowed ".toList ++ "7,10,20,21".toList ∈
      Outline.blockOf AosCx.indent (AosCx.portHeader .default "2".toList)
        (Direction.iosToAosCx.translate rangeTrunk .default).output := by decide +kernel
  have hwhole : ∀ named ∈ Ios.acceptedLists "2".toList rangeTrunk,
      NumberList.breaks named "21".toList = false := by decide +kernel
  exact ⟨hid, hline, hwhole,
    ((printed_vlans_named rangeTrunk).2 _ hid).allowed _ hline _ (by decide) hwhole⟩

/-- Ports with a word for their access VLAN, for their native VLAN and for their voice VLAN. -/
def wordVlans : Text :=
  ("interface Gi0/2\n switchport access vlan dynamic\n!\n" ++
    "interface Gi0/3\n switchport trunk allowed vlan 10\n switchport trunk native vlan tag\n!\n" ++
    "interface Gi0/4\n switchport access vlan 20,guest\n switchport voice vlan dot1p\n!").toList

/-- What is not checked is printed behind each of the keywords. -/
theorem wordVlans_printed :
    (["    vlan access dynamic", "    vlan trunk native tag", "    vlan trunk native 20,guest",
        "    vlan trunk allowed 20,guest,dot1p"].map String.toList ⊆
      (Direction.iosToAosCx.translate wordVlans .default).output.splitOn '\n') ∧
      ∀ word ∈ ["dynamic", "tag", "20,guest", "guest", "dot1p"],
        ¬ NumberList.IsVlanId word.toList := by
  decide +kernel

end SwitchDialects
