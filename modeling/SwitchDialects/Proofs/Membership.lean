import SwitchDialects.Proofs.AosCx.Alike
import SwitchDialects.Proofs.Text.NumericOrder

/-!
# Membership as a function of the VLANs of a port

A port belongs to the VLANs of its trunk, to its access VLAN and to its voice VLAN; the empty text
is none. A trunk allows these in order, each once, which leaves no choice: neither the order in
which the VLANs were said nor how often makes a difference. A VLAN that is added makes the port a
trunk which allows it beside the others, and no VLAN that is added takes one away.
-/

namespace SwitchDialects.Port

open NumericOrder

/-- A port belongs to a VLAN: to one of its trunk, to its access VLAN or to its voice VLAN. -/
def InVlan (port : Port) (vlan : Text) : Prop :=
  vlan ≠ [] ∧ (vlan ∈ port.trunkVlans ∨ port.accessVlan = some vlan ∨ port.voiceVlan = some vlan)

/-- A trunk allows the VLANs of the port in order. -/
theorem listsInOrder_allowedVlans (port : Port) : ListsInOrder port.InVlan port.allowedVlans := by
  refine (listsInOrder_foldl_appendNew _).congr fun vlan => ?_
  simp only [List.mem_filter, List.mem_append, Option.mem_toList, Bool.not_eq_true',
    List.isEmpty_eq_false_iff, or_assoc]
  exact and_comm

theorem mem_allowedVlans {port : Port} {vlan : Text} :
    vlan ∈ port.allowedVlans ↔ port.InVlan vlan :=
  port.listsInOrder_allowedVlans.mem vlan

theorem listsInOrder_iff {port : Port} {list : List Text} :
    ListsInOrder port.InVlan list ↔ list = port.allowedVlans := by
  constructor
  · exact fun h => h.unique port.listsInOrder_allowedVlans
  · rintro rfl
    exact port.listsInOrder_allowedVlans

def addTrunkVlans (port : Port) (vlans : List Text) : Port := vlans.foldl addTrunkVlan port

theorem addTrunkVlans_eq (port : Port) (vlans : List Text) :
    port.addTrunkVlans vlans =
      { port with trunkVlans := vlans.foldl appendNew port.trunkVlans } :=
  Ios.foldl_addTrunkVlan port vlans

theorem inVlan_addTrunkVlans {port : Port} {vlans : List Text} {vlan : Text} :
    (port.addTrunkVlans vlans).InVlan vlan ↔ port.InVlan vlan ∨ vlan ≠ [] ∧ vlan ∈ vlans := by
  simp only [InVlan, addTrunkVlans_eq, mem_foldl_appendNew]
  tauto

theorem trunkNative_addTrunkVlans (port : Port) (vlans : List Text) (profile : SiteProfile) :
    (port.addTrunkVlans vlans).trunkNative profile = port.trunkNative profile := by
  rw [addTrunkVlans_eq, trunkNative, trunkNative]

/-- A reason to be a trunk stays one. -/
theorem wantsTrunk_addTrunkVlans {port : Port} {source : Dialect} {profile : SiteProfile}
    (h : port.wantsTrunk source profile = true) (vlans : List Text) :
    (port.addTrunkVlans vlans).wantsTrunk source profile = true := by
  have hvoice : (port.addTrunkVlans vlans).carriesVoice source = port.carriesVoice source := by
    rw [addTrunkVlans_eq]
    rfl
  have huplink : (port.addTrunkVlans vlans).isUplink profile = port.isUplink profile := by
    rw [addTrunkVlans_eq]
    rfl
  have htrunk : port.trunkVlans.isEmpty = false →
      (port.addTrunkVlans vlans).trunkVlans.isEmpty = false := by
    simp only [List.isEmpty_eq_false_iff_exists_mem, addTrunkVlans_eq]
    rintro ⟨vlan, hvlan⟩
    exact ⟨vlan, mem_foldl_appendNew.mpr (.inl hvlan)⟩
  simp only [wantsTrunk, Bool.or_eq_true, Bool.not_eq_true', hvoice, huplink] at h ⊢
  exact h.imp_left fun h => h.imp_left htrunk

/-- A port becomes a trunk: it has a VLAN and a reason. -/
def IsTrunk (port : Port) (source : Dialect) (profile : SiteProfile) : Prop :=
  port.allowedVlans ≠ [] ∧ port.wantsTrunk source profile = true

theorem membership_of_isTrunk {port : Port} {source : Dialect} {profile : SiteProfile}
    (h : port.IsTrunk source profile) :
    port.membership source profile = .trunk (port.trunkNative profile) port.allowedVlans :=
  if_pos (by simpa [IsTrunk] using h)

theorem membership_of_not_isTrunk {port : Port} {source : Dialect} {profile : SiteProfile}
    (h : ¬ port.IsTrunk source profile) :
    port.membership source profile = (port.accessVlan.map Membership.access).getD .none := by
  rw [membership, if_neg (by simpa [IsTrunk] using h)]
  cases port.accessVlan <;> rfl

theorem membership_eq_trunk_iff {port : Port} {source : Dialect} {profile : SiteProfile}
    {native : Text} {allowed : List Text} :
    port.membership source profile = .trunk native allowed ↔
      port.IsTrunk source profile ∧ native = port.trunkNative profile ∧
        allowed = port.allowedVlans := by
  by_cases h : port.IsTrunk source profile
  · simp [membership_of_isTrunk h, h, eq_comm]
  · rw [membership_of_not_isTrunk h]
    cases port.accessVlan <;> simp [h]

/-- A VLAN that is added is allowed on the trunk that the port then is. -/
theorem membership_addTrunkVlan (port : Port) (source : Dialect) (profile : SiteProfile)
    {vlan : Text} (h : vlan ≠ []) :
    (port.addTrunkVlan vlan).membership source profile =
      .trunk (port.trunkNative profile) (port.addTrunkVlan vlan).allowedVlans := by
  have hadded : (port.addTrunkVlan vlan).InVlan vlan :=
    ⟨h, .inl (mem_appendNew.mpr (.inr rfl))⟩
  have hlisted : vlan ∈ (port.addTrunkVlan vlan).trunkVlans := mem_appendNew.mpr (.inr rfl)
  refine membership_eq_trunk_iff.mpr
    ⟨⟨List.ne_nil_of_mem (mem_allowedVlans.mpr hadded), ?_⟩,
      (trunkNative_addTrunkVlans port [vlan] profile).symm, rfl⟩
  have hnonempty : (port.addTrunkVlan vlan).trunkVlans.isEmpty = false :=
    List.isEmpty_eq_false_iff_exists_mem.mpr ⟨vlan, hlisted⟩
  rw [wantsTrunk, hnonempty]
  rfl

theorem allowedVlans_subset_addTrunkVlans (port : Port) (vlans : List Text) :
    port.allowedVlans ⊆ (port.addTrunkVlans vlans).allowedVlans :=
  fun _ hvlan => mem_allowedVlans.mpr (inVlan_addTrunkVlans.mpr (.inl (mem_allowedVlans.mp hvlan)))

/-- The VLANs that a trunk allows are those of the port in order, the one list of this kind. How the
trunk VLANs were listed makes no difference to the membership. A VLAN that is added makes the port
a trunk, and VLANs that are added take none away. -/
theorem membership_canonical (port : Port) (source : Dialect) (profile : SiteProfile) :
    (∀ list, ListsInOrder port.InVlan list ↔ list = port.allowedVlans) ∧
    (∀ vlans, (∀ vlan, vlan ∈ vlans ↔ vlan ∈ port.trunkVlans) →
      ({ port with trunkVlans := vlans } : Port).membership source profile =
        port.membership source profile) ∧
    (∀ vlan, vlan ≠ [] → ∃ allowed,
      (port.addTrunkVlan vlan).membership source profile =
        .trunk ((port.nativeVlan.or port.accessVlan).getD profile.nativeVlan) allowed ∧
      ListsInOrder (fun other => other ∈ port.allowedVlans ∨ other = vlan) allowed) ∧
    ∀ vlans, port.allowedVlans ⊆ (port.addTrunkVlans vlans).allowedVlans ∧
      ∀ native allowed, port.membership source profile = .trunk native allowed →
        ∃ more, allowed ⊆ more ∧
          (port.addTrunkVlans vlans).membership source profile = .trunk native more := by
  refine ⟨fun _ => listsInOrder_iff, ?same, ?added, fun vlans =>
    ⟨port.allowedVlans_subset_addTrunkVlans vlans, ?grows⟩⟩
  case same =>
    intro vlans same
    have hsame : UpToOrder { port with trunkVlans := vlans } port := ⟨rfl, same⟩
    exact hsame.membership_eq source profile
  case added =>
    intro vlan hvlan
    refine ⟨_, port.membership_addTrunkVlan source profile hvlan, ?_⟩
    apply (listsInOrder_allowedVlans _).congr
    intro other
    have hadded : (port.addTrunkVlan vlan).InVlan other ↔
        port.InVlan other ∨ other ≠ [] ∧ other ∈ [vlan] := @inVlan_addTrunkVlans port [vlan] other
    rw [mem_allowedVlans, hadded, List.mem_singleton]
    exact or_congr_right ⟨fun h => h.2, fun h => ⟨h ▸ hvlan, h⟩⟩
  case grows =>
    intro native allowed htrunk
    obtain ⟨⟨hallowed, hwants⟩, rfl, rfl⟩ := membership_eq_trunk_iff.mp htrunk
    have hgrows := port.allowedVlans_subset_addTrunkVlans vlans
    obtain ⟨vlan, hvlan⟩ := List.exists_mem_of_ne_nil _ hallowed
    have htrunk : (port.addTrunkVlans vlans).IsTrunk source profile :=
      ⟨List.ne_nil_of_mem (hgrows hvlan), wantsTrunk_addTrunkVlans hwants vlans⟩
    exact ⟨_, hgrows, membership_eq_trunk_iff.mpr
      ⟨htrunk, (port.trunkNative_addTrunkVlans vlans profile).symm, rfl⟩⟩

/-- A port whose access VLAN is on its trunk beside two others. -/
theorem desk_membership :
    let desk : Port :=
      { id := "5".toList, accessVlan := some "30".toList, trunkVlans := ["20".toList, "9".toList] }
    let profile : SiteProfile := {}
    ({ desk with trunkVlans := ["9".toList, "20".toList, "9".toList] } : Port).membership .ios
        profile = desk.membership .ios profile ∧
      (∃ allowed, (desk.addTrunkVlan "100".toList).membership .ios profile =
          .trunk "30".toList allowed ∧
        ListsInOrder (fun other => other ∈ desk.allowedVlans ∨ other = "100".toList) allowed) ∧
      ∃ more, ["9".toList, "20".toList, "30".toList] ⊆ more ∧
        (desk.addTrunkVlans ["8".toList, "20".toList]).membership .ios profile =
          .trunk "30".toList more := by
  intro desk profile
  obtain ⟨-, hsame, hadded, hgrows⟩ := membership_canonical desk .ios profile
  refine ⟨hsame _ fun vlan => ?_, hadded _ (by decide),
    (hgrows ["8".toList, "20".toList]).2 _ _ (by decide +kernel)⟩
  simp only [desk, List.mem_cons, List.not_mem_nil, or_false]
  tauto

end SwitchDialects.Port
