import SwitchDialects.Proofs.AosCx.Prepared
import SwitchDialects.Proofs.Entries
import SwitchDialects.Proofs.Text.NumericOrder

/-!
# The native VLANs of voice ports

Before a network is written, a voice port without a native VLAN takes its access VLAN for one. What
is written does not show this: a trunk without a native VLAN has its access VLAN as native in any
case, and nothing else is written of a native VLAN. So the voice VLAN of a site decides nothing but
which VLANs are marked as VLANs for phones.
-/

namespace SwitchDialects

namespace Port

/-- A port that has taken a native VLAN lacks none. -/
theorem lacksVoiceNative_withVoiceNative (port : Port) (profile : SiteProfile) :
    (port.withVoiceNative profile).lacksVoiceNative profile = false := by
  by_cases h : port.lacksVoiceNative profile = true
  · have haccess : port.accessVlan.isNone = false := by
      simp only [lacksVoiceNative, Bool.and_eq_true] at h
      simp [h.2]
    rw [withVoiceNative, if_pos h, lacksVoiceNative, haccess, Bool.and_false, Bool.false_and]
  · rw [withVoiceNative, if_neg h]
    exact Bool.eq_false_iff.mpr h

theorem withVoiceNative_withVoiceNative (port : Port) (profile : SiteProfile) :
    (port.withVoiceNative profile).withVoiceNative profile = port.withVoiceNative profile :=
  if_neg (by simp [lacksVoiceNative_withVoiceNative])

end Port

namespace AosCx

variable {profile : SiteProfile}

theorem prepare_prepare (network : Network) (profile : SiteProfile) :
    prepare (prepare network profile) profile = prepare network profile := by
  have hports : ((network.ports.mapValues (Port.withVoiceNative · profile)).mapValues
      (Port.withVoiceNative · profile)) =
      network.ports.mapValues (Port.withVoiceNative · profile) := by
    refine OrderedMap.ext_get? (by simp) fun key _ => ?_
    rw [OrderedMap.get?_mapValues, OrderedMap.get?_mapValues, Option.map_map]
    congr 1
    funext port
    exact port.withVoiceNative_withVoiceNative profile
  rw [prepare, prepare, hports]

/-- What is written of a port does not depend on the pass. -/
theorem portBlock_withVoiceNative (source : Dialect) (profile : SiteProfile) (port : Port) :
    portBlock source profile (port.withVoiceNative profile) = portBlock source profile port := by
  have hsettings : settingLines (port.withVoiceNative profile) = settingLines port :=
    Port.same_withVoiceNative (fun _ _ => rfl) port profile
  rw [portBlock, portBlock, portLines_eq, portLines_eq, id_withVoiceNative, hsettings,
    Port.membership_withVoiceNative]

/-- The lines of a network are the same with and without the pass. -/
theorem outline_prepare (network : Network) (profile : SiteProfile) :
    outline (prepare network profile) profile = outline network profile := by
  have hvalues : (prepare network profile).ports.values =
      network.ports.values.map (Port.withVoiceNative · profile) :=
    OrderedMap.values_mapValues _ _
  have hports : (NumericOrder.sortBy Port.id (prepare network profile).ports.values).flatMap
        (portBlock network.source profile) =
      (NumericOrder.sortBy Port.id network.ports.values).flatMap
        (portBlock network.source profile) := by
    rw [hvalues, ← NumericOrder.map_sortBy fun port => id_withVoiceNative port profile,
      List.flatMap_map]
    simp only [portBlock_withVoiceNative]
  have hfront : front (prepare network profile) profile = front network profile := rfl
  rw [outline_eq_blocks, outline_eq_blocks, hfront]
  exact congrArg (front network profile ++ ·) hports

def voiceLine : Line := .member "voice".toList

/-- Whether the lines after this one stand in the block of a VLAN. -/
def inVlanAfter (inVlan : Bool) : Line → Bool
  | .flush text => isVlanHeader text
  | .member _ => inVlan

/-- The same lines but for marks of VLANs for phones, each in the block of a VLAN. The flag says
whether the lines begin in such a block. -/
inductive SameButVoice : Bool → List Line → List Line → Prop
  | nil (inVlan : Bool) : SameButVoice inVlan [] []
  | line {inVlan : Bool} (line : Line) {as bs : List Line}
      (rest : SameButVoice (inVlanAfter inVlan line) as bs) :
      SameButVoice inVlan (line :: as) (line :: bs)
  | left {as bs : List Line} (rest : SameButVoice true as bs) :
      SameButVoice true (voiceLine :: as) bs
  | right {as bs : List Line} (rest : SameButVoice true as bs) :
      SameButVoice true as (voiceLine :: bs)

theorem SameButVoice.refl (lines : List Line) (inVlan : Bool) :
    SameButVoice inVlan lines lines := by
  induction lines generalizing inVlan with
  | nil => exact .nil inVlan
  | cons line lines ih => exact .line line (ih _)

theorem SameButVoice.append {as bs : List Line} (h : ∀ inVlan, SameButVoice inVlan as bs)
    (before : List Line) (inVlan : Bool) : SameButVoice inVlan (before ++ as) (before ++ bs) := by
  induction before generalizing inVlan with
  | nil => exact h inVlan
  | cons line before ih => exact .line line (ih _)

/-- The mark may stand on one side only, on both or on none. -/
theorem SameButVoice.marks (inLeft inRight : Bool) {as bs : List Line}
    (h : SameButVoice true as bs) :
    SameButVoice true ((if inLeft then [voiceLine] else []) ++ as)
      ((if inRight then [voiceLine] else []) ++ bs) := by
  cases inLeft <;> cases inRight
  · exact h
  · exact .right h
  · exact .left h
  · exact .line voiceLine h

/-- The block of a VLAN depends on the site by the mark only. -/
theorem sameButVoice_vlanBlock (vlan : Vlan) (site other : SiteProfile) {as bs : List Line}
    (h : ∀ inVlan, SameButVoice inVlan as bs) (inVlan : Bool) :
    SameButVoice inVlan (vlanBlock site vlan ++ as) (vlanBlock other vlan ++ bs) := by
  have hmarks := SameButVoice.marks (vlan.isVoice site) (vlan.isVoice other) (h true)
  simp only [vlanBlock, List.append_assoc]
  refine .line _ ?_
  -- wherever the block stands, its header is what allows a mark after it
  have hheader : inVlanAfter inVlan (.flush ("vlan ".toList ++ vlan.id)) = true := rfl
  rw [hheader]
  cases vlan.name with
  | none => exact hmarks
  | some name => exact .line _ hmarks

theorem sameButVoice_vlanBlocks (vlans : List Vlan) (site other : SiteProfile) {as bs : List Line}
    (h : ∀ inVlan, SameButVoice inVlan as bs) (inVlan : Bool) :
    SameButVoice inVlan (vlans.flatMap (vlanBlock site) ++ as)
      (vlans.flatMap (vlanBlock other) ++ bs) := by
  induction vlans generalizing inVlan with
  | nil => exact h inVlan
  | cons vlan vlans ih =>
    rw [List.flatMap_cons, List.flatMap_cons, List.append_assoc, List.append_assoc]
    exact sameButVoice_vlanBlock vlan site other ih inVlan

/-- The voice VLAN of a site is seen in the blocks of VLANs only. -/
theorem sameButVoice_outline (network : Network) (profile : SiteProfile) (voiceVlan : Text) :
    SameButVoice false (outline network profile)
      (outline network { profile with voiceVlan := voiceVlan }) := by
  have hports : portBlock network.source { profile with voiceVlan := voiceVlan } =
      portBlock network.source profile := rfl
  simp only [outline, hports, List.append_assoc]
  exact .append (sameButVoice_vlanBlocks _ _ _ (SameButVoice.refl _)) _ _

/-- The lines of a text but for those that mark a VLAN as one for phones. -/
def withoutVoiceLines (lines : List Text) : List Text :=
  lines.filter (· != voiceLine.render indent)

theorem withoutVoiceLines_cons (line : Line) (lines : List Line) :
    withoutVoiceLines (rendered (line :: lines)) =
      withoutVoiceLines ((line.render indent).splitOn '\n') ++
        withoutVoiceLines (rendered lines) := by
  rw [rendered, List.flatMap_cons]
  exact List.filter_append _ _

theorem withoutVoiceLines_voiceLine (lines : List Line) :
    withoutVoiceLines (rendered (voiceLine :: lines)) = withoutVoiceLines (rendered lines) := by
  have hvoice : withoutVoiceLines ((voiceLine.render indent).splitOn '\n') = [] := by decide
  rw [withoutVoiceLines_cons, hvoice, List.nil_append]

theorem SameButVoice.withoutVoiceLines_eq {inVlan : Bool} {as bs : List Line}
    (h : SameButVoice inVlan as bs) :
    withoutVoiceLines (rendered as) = withoutVoiceLines (rendered bs) := by
  induction h with
  | nil => rfl
  | line line _ ih => rw [withoutVoiceLines_cons, withoutVoiceLines_cons, ih]
  | left _ ih => rw [withoutVoiceLines_voiceLine, ih]
  | right _ ih => rw [withoutVoiceLines_voiceLine, ih]

/-- The pass over the voice ports is not seen in the text, and a second one changes nothing. Two
sites that differ in their voice VLAN are written with the same lines but for the marks of VLANs
for phones in the blocks of VLANs. -/
theorem voiceNative_unseen (network : Network) (profile : SiteProfile) :
    write network profile = Outline.render indent (outline network profile) ∧
      (write (prepare network profile) profile = write network profile ∧
        prepare (prepare network profile) profile = prepare network profile) ∧
      ∀ voiceVlan : Text,
        SameButVoice false (outline network profile)
          (outline network { profile with voiceVlan := voiceVlan }) ∧
        withoutVoiceLines ((write network profile).splitOn '\n') =
          withoutVoiceLines ((write network { profile with voiceVlan := voiceVlan }).splitOn '\n') := by
  have hwrite (site : SiteProfile) :
      write network site = Outline.render indent (outline network site) := by
    rw [write, outline_prepare]
  refine ⟨hwrite profile, ⟨?again, prepare_prepare network profile⟩, fun voiceVlan => ?sites⟩
  case again =>
    rw [write, prepare_prepare]
    rfl
  case sites =>
    have hsame := sameButVoice_outline network profile voiceVlan
    refine ⟨hsame, ?_⟩
    rw [hwrite, hwrite, splitOn_render_outline, splitOn_render_outline]
    exact hsame.withoutVoiceLines_eq

end AosCx

end SwitchDialects
