import SwitchDialects.Proofs.Membership
import SwitchDialects.Proofs.PortState

/-!
# The declared mode of a port

The mode that an IOS configuration declares for a port is one reason among others for what AOS-CX is
told. A port that is not the uplink and carries no voice beside its data is a trunk if a VLAN was
listed for its trunk, whatever its mode is, and it has its access VLAN otherwise. So the mode is
respected where the statements of the other mode were not made.
-/

namespace SwitchDialects

open Text

/-- Whether a statement of a written block is about the VLANs of its port and has this keyword. -/
def isVlanLine (keyword t : Text) : Bool := ("vlan ".toList ++ keyword).isPrefixOf t

def HasTrunkLine (block : List Text) : Prop := ∃ t ∈ block, isVlanLine "trunk ".toList t = true

def HasAccessLine (block : List Text) : Prop := ∃ t ∈ block, isVlanLine "access ".toList t = true

instance (block : List Text) : Decidable (HasTrunkLine block) :=
  inferInstanceAs (Decidable (∃ t ∈ block, _))

instance (block : List Text) : Decidable (HasAccessLine block) :=
  inferInstanceAs (Decidable (∃ t ∈ block, _))

namespace AosCx

variable {source : Dialect} {profile : SiteProfile} {port : Port}

theorem exists_vlanLine_iff (short : ShortPort port) (keyword : Text) :
    (∃ t ∈ portLines source profile port, isVlanLine keyword t = true) ↔
      ∃ t ∈ membershipLines (port.membership source profile), isVlanLine keyword t = true := by
  constructor
  · rintro ⟨t, ht, hline⟩
    have hvlan : "vlan ".toList.isPrefixOf t = true :=
      List.isPrefixOf_iff_prefix.mpr
        ((List.prefix_append _ keyword).trans (List.isPrefixOf_iff_prefix.mp hline))
    exact ⟨t, mem_membershipLines short ht hvlan, hline⟩
  · rintro ⟨t, ht, hline⟩
    rw [portLines_eq]
    exact ⟨t, List.mem_append.mpr (.inr ht), hline⟩

theorem hasTrunkLine_iff (short : ShortPort port) :
    HasTrunkLine (portLines source profile port) ↔ port.IsTrunk source profile := by
  rw [HasTrunkLine, exists_vlanLine_iff short]
  by_cases h : port.IsTrunk source profile
  · simp [Port.membership_of_isTrunk h, membershipLines, isVlanLine, h]
  · rw [Port.membership_of_not_isTrunk h]
    cases port.accessVlan <;> simp [membershipLines, isVlanLine, h]

theorem hasAccessLine_iff (short : ShortPort port) :
    HasAccessLine (portLines source profile port) ↔
      ¬ port.IsTrunk source profile ∧ port.accessVlan.isSome = true := by
  rw [HasAccessLine, exists_vlanLine_iff short]
  by_cases h : port.IsTrunk source profile
  · simp [Port.membership_of_isTrunk h, membershipLines, isVlanLine, h]
  · rw [Port.membership_of_not_isTrunk h]
    cases port.accessVlan <;> simp [membershipLines, isVlanLine, h]

end AosCx

namespace Ios.PortStatement

def setsMode : PortStatement → Bool
  | .mode _ => true
  | _ => false

def modeSetting : PortStatement → Option PortMode
  | .mode declared => declared
  | _ => none

theorem mode_apply (statement : PortStatement) (port : Port) :
    (statement.apply port).mode =
      if statement.setsMode then statement.modeSetting else port.mode := by
  cases statement with
  | trunk vlans => rw [apply, foldl_addTrunkVlan]; rfl
  | power enabled kept => cases kept <;> rfl
  | _ => rfl

end Ios.PortStatement

def Ios.lastMode? (statements : List Ios.PortStatement) : Option PortMode :=
  (statements.filter (·.setsMode)).getLast?.bind (·.modeSetting)

theorem Ios.port_mode {as : List Ios.Action} (h : Ios.Ordered as) {port : Text} {record : Port}
    (hget : (Ios.replay Ios.start as).ports.get? port = some record) :
    record.mode = Ios.lastMode? (Ios.statementsOf port as) := by
  rw [Ios.get?_ports_replay h] at hget
  split at hget
  · cases hget
    rw [Replay.foldl_assign (f := Port.mode) (fun r s => s.mode_apply r), Ios.lastMode?]
    cases ((Ios.statementsOf port as).filter (·.setsMode)).getLast? <;> rfl
  · cases hget

namespace Port

variable {port : Port} {source : Dialect} {profile : SiteProfile}

/-- Away from the uplink and without voice, a port is a trunk if it lists a VLAN. -/
theorem isTrunk_iff_listed (hvoice : port.carriesVoice source = false)
    (huplink : port.isUplink profile = false) (hlisted : ∀ vlan ∈ port.trunkVlans, vlan ≠ []) :
    port.IsTrunk source profile ↔ port.trunkVlans ≠ [] := by
  have hwants : port.wantsTrunk source profile = true ↔ port.trunkVlans ≠ [] := by
    simp [wantsTrunk, hvoice, huplink]
  rw [IsTrunk, hwants, and_iff_right_iff_imp]
  intro hne
  obtain ⟨vlan, hvlan⟩ := List.exists_mem_of_ne_nil _ hne
  exact List.ne_nil_of_mem (mem_allowedVlans.mpr ⟨hlisted vlan hvlan, .inl hvlan⟩)

/-- Taking the access VLAN for a native one makes no trunk. -/
theorem isTrunk_withVoiceNative : (port.withVoiceNative profile).IsTrunk source profile ↔
    port.IsTrunk source profile :=
  Iff.of_eq (same_withVoiceNative (f := (IsTrunk · source profile)) (fun _ _ => rfl) port profile)

theorem carriesVoice_of_voiceVlan (h : port.voiceVlan = none) : port.carriesVoice source = false := by
  simp [carriesVoice, h]

theorem carriesVoice_of_mode (h : port.mode = some .trunk) : port.carriesVoice source = false := by
  have haccess : port.isAccess = false := by
    rw [isAccess, h]
    rfl
  rw [carriesVoice, haccess, Bool.and_false, Bool.false_and]

end Port

/-- How far a block respects the mode that these statements declare last. -/
structure ModeRespected (statements : List Ios.PortStatement) (block : List Text) : Prop where
  /-- Without voice only a VLAN that was listed for its trunk makes an access port a trunk. -/
  access : Ios.lastMode? statements = some .access → (∀ s ∈ statements, s.voice? = none) →
    (HasTrunkLine block ↔ ∃ s ∈ statements, s.trunkVlans ≠ [])
  /-- Only for want of such a VLAN does a trunk have its access VLAN. -/
  trunk : Ios.lastMode? statements = some .trunk →
    (HasAccessLine block ↔ (∃ s ∈ statements, s.access?.isSome = true) ∧
      ∀ s ∈ statements, s.trunkVlans = [])

section

variable {text id : Text} {record : Port}
  (hget : (Ios.read text).ports.get? id = some record)

include hget

theorem Ios.mode_read : record.mode = Ios.lastMode? (Ios.statementsOf id (Ios.actions text)) := by
  rw [Ios.read_eq_replay] at hget
  exact Ios.port_mode (Ios.ordered_actions text) hget

theorem Ios.trunkVlans_read :
    record.trunkVlans = [] ↔ ∀ s ∈ Ios.statementsOf id (Ios.actions text), s.trunkVlans = [] := by
  simp only [List.eq_nil_iff_forall_not_mem, (Ios.port_fields_read hget).2.2, Ios.OnTrunk,
    Ios.mem_statementsOf]
  constructor
  · intro h s hs vlan hvlan
    exact h vlan ⟨s, hs, hvlan⟩
  · rintro h vlan ⟨s, hs, hvlan⟩
    exact h s hs vlan hvlan

theorem Ios.accessVlan_read : record.accessVlan.isSome = true ↔
    ∃ s ∈ Ios.statementsOf id (Ios.actions text), s.access?.isSome = true := by
  rw [(Ios.port_fields_read hget).1, Ios.lastAccess, List.getLast?_isSome, ne_eq,
    List.filterMap_eq_nil_iff]
  push Not
  simp only [Option.isSome_iff_ne_none]

theorem Ios.voiceVlan_read (h : ∀ s ∈ Ios.statementsOf id (Ios.actions text), s.voice? = none) :
    record.voiceVlan = none := by
  rw [(Ios.port_fields_read hget).2.1, Ios.lastVoice, List.filterMap_eq_nil_iff.mpr h]
  rfl

/-- The reader puts no empty text on a trunk. -/
theorem Ios.listed_read : ∀ vlan ∈ record.trunkVlans, vlan ≠ [] := by
  rintro vlan hvlan rfl
  obtain ⟨statement, hmem, hlisted⟩ := ((Ios.port_fields_read hget).2.2 _).mp hvlan
  exact absurd ((Ios.readable_of_inPort hmem).listed _ hlisted).2.2 (by decide)

/-- The block that is made from the record of a port respects the mode so far. -/
theorem modeRespected_read {profile : SiteProfile} (huplink : record.isUplink profile = false) :
    ModeRespected (Ios.statementsOf id (Ios.actions text))
      (AosCx.portLines .ios profile (record.withVoiceNative profile)) := by
  have hmode := Ios.mode_read hget
  have htrunk (hvoice : record.carriesVoice .ios = false) :
      (record.withVoiceNative profile).IsTrunk .ios profile ↔
        ∃ s ∈ Ios.statementsOf id (Ios.actions text), s.trunkVlans ≠ [] := by
    rw [Port.isTrunk_withVoiceNative,
      Port.isTrunk_iff_listed hvoice huplink (Ios.listed_read hget), ne_eq,
      Ios.trunkVlans_read hget]
    push Not
    rfl
  have hshort := shortPort_withVoiceNative (Ios.shortPort_read hget) profile
  constructor
  · intro haccess hquiet
    rw [AosCx.hasTrunkLine_iff hshort]
    exact htrunk (Port.carriesVoice_of_voiceVlan (Ios.voiceVlan_read hget hquiet))
  · intro hdeclared
    rw [AosCx.hasAccessLine_iff hshort,
      htrunk (Port.carriesVoice_of_mode (hmode.trans hdeclared)), Port.accessVlan_withVoiceNative,
      Ios.accessVlan_read hget, and_comm]
    push Not
    rfl

end

/-- The mode that an IOS configuration declares for a port other than the uplink is respected in
AOS-CX as long as no statement of the other mode counts against it. -/
theorem declared_mode_respected (text : Text) (profile : SiteProfile) {id : Text} {record : Port}
    (hget : (Ios.read text).ports.get? id = some record)
    (huplink : record.isUplink profile = false) :
    ((Direction.iosToAosCx.translate text profile).output = Outline.render AosCx.indent
        (AosCx.outline (AosCx.prepare (Ios.read text) profile) profile) ∧
      ModeRespected (Ios.statementsOf id (Ios.actions text))
        (Outline.membersUnder (AosCx.portHeader profile id)
          (AosCx.outline (AosCx.prepare (Ios.read text) profile) profile))) ∧
    (OneLine profile.portStem → OneLine profile.nativeVlan →
      ModeRespected (Ios.statementsOf id (Ios.actions text))
        (Outline.blockOf AosCx.indent (AosCx.portHeader profile id)
          (Direction.iosToAosCx.translate text profile).output)) := by
  have hrespected := modeRespected_read hget huplink
  refine ⟨⟨rfl, ?_⟩, fun hstem hsite => ?_⟩
  · rw [AosCx.membersUnder_prepare (Ios.keyed_read text), hget, Ios.source_read]
    exact hrespected
  · rw [aosCx_block hget hstem hsite]
    exact hrespected

def plainModes : Text :=
  ("interface Gi0/2\n switchport mode access\n switchport access vlan 10\n!\n" ++
    "interface Gi0/3\n switchport mode trunk\n switchport trunk allowed vlan 10,20\n!").toList

theorem plainModes_respected :
    (∃ record, (Ios.read plainModes).ports.get? "2".toList = some record ∧
        record.isUplink .default = false) ∧
      (∃ record, (Ios.read plainModes).ports.get? "3".toList = some record ∧
        record.isUplink .default = false) ∧
      OneLine SiteProfile.default.portStem ∧ OneLine SiteProfile.default.nativeVlan ∧
      ¬ HasTrunkLine (Outline.blockOf AosCx.indent (AosCx.portHeader .default "2".toList)
        (Direction.iosToAosCx.translate plainModes .default).output) ∧
      ¬ HasAccessLine (Outline.blockOf AosCx.indent (AosCx.portHeader .default "3".toList)
        (Direction.iosToAosCx.translate plainModes .default).output) := by
  have hactions : Ios.actions plainModes =
      [.openPort "2".toList, .inPort "2".toList (.mode (some .access)),
        .inPort "2".toList (.access "10".toList), .openPort "3".toList,
        .inPort "3".toList (.mode (some .trunk)),
        .inPort "3".toList (.trunk ["10".toList, "20".toList])] := by decide +kernel
  have desk : (Ios.read plainModes).ports.get? "2".toList = some
      { id := "2".toList, mode := some .access, accessVlan := some "10".toList,
        shutdown := .off } := by
    rw [Ios.read_eq_replay, hactions]
    decide
  have link : (Ios.read plainModes).ports.get? "3".toList = some
      { id := "3".toList, mode := some .trunk, trunkVlans := ["10".toList, "20".toList],
        shutdown := .off } := by
    rw [Ios.read_eq_replay, hactions]
    decide
  have hdesk := (declared_mode_respected plainModes .default desk (by decide)).2
    (by decide) (by decide)
  have hlink := (declared_mode_respected plainModes .default link (by decide)).2
    (by decide) (by decide)
  rw [hactions] at hdesk hlink
  refine ⟨⟨_, desk, by decide⟩, ⟨_, link, by decide⟩, by decide, by decide, ?_, ?_⟩
  · rw [hdesk.access (by decide) (by decide)]
    decide
  · rw [hlink.trunk (by decide)]
    decide

/-- A port in access mode that lists a VLAN for a trunk, and one in trunk mode that lists none and
has an access VLAN. -/
def mixedModes : Text :=
  ("interface Gi0/2\n switchport mode access\n switchport access vlan 10\n" ++
    " switchport trunk allowed vlan 20\n!\n" ++
    "interface Gi0/3\n switchport access vlan 10\n switchport mode trunk\n!").toList

/-- Neither of these ports has the mode in AOS-CX that it was declared to have. -/
theorem mixedModes_disregarded :
    (((Ios.read mixedModes).ports.get? "2".toList).map (·.isUplink .default) = some false ∧
        Ios.lastMode? (Ios.statementsOf "2".toList (Ios.actions mixedModes)) = some .access ∧
        (∀ s ∈ Ios.statementsOf "2".toList (Ios.actions mixedModes), s.voice? = none) ∧
        HasTrunkLine (Outline.blockOf AosCx.indent (AosCx.portHeader .default "2".toList)
          (Direction.iosToAosCx.translate mixedModes .default).output)) ∧
      ((Ios.read mixedModes).ports.get? "3".toList).map (·.isUplink .default) = some false ∧
        Ios.lastMode? (Ios.statementsOf "3".toList (Ios.actions mixedModes)) = some .trunk ∧
        HasAccessLine (Outline.blockOf AosCx.indent (AosCx.portHeader .default "3".toList)
          (Direction.iosToAosCx.translate mixedModes .default).output) := by
  decide +kernel

end SwitchDialects
