import SwitchDialects.Proofs.AosCx.Alike
import SwitchDialects.Proofs.Ios.Membership
import SwitchDialects.Proofs.Ios.Sections
import SwitchDialects.Proofs.ProCurve.Sections
import SwitchDialects.Translation

/-!
# Repeated configurations

A configuration that is read a second time, after a line that closes the open block, does to every
record what it did before. A setting is overwritten and ends up with the value it had, or was
written while it was empty and is not written again, or collects what it holds already. What does
grow are the statements about the device, of which the last name and the first location are shown,
and the statements kept of a port, which AOS-CX does not repeat.
-/

namespace SwitchDialects

open Replay (Overwrites)

/-- All that is written of a VLAN is left as it is or overwritten by a change. -/
structure Vlan.Overwritten (change : Vlan → Vlan) : Prop where
  id : Overwrites change Vlan.id
  name : Overwrites change Vlan.name
  address : Overwrites change Vlan.address
  voice : Overwrites change Vlan.voice

theorem Vlan.Overwritten.unchanged : Vlan.Overwritten fun vlan => vlan := by
  constructor <;> exact .inl fun _ => rfl

theorem Vlan.Overwritten.foldl {α : Type} {step : Vlan → α → Vlan}
    (h : ∀ a, Overwritten (step · a)) (as : List α) :
    Overwritten fun vlan => as.foldl step vlan where
  id := .foldl (fun a => (h a).id) as
  name := .foldl (fun a => (h a).name) as
  address := .foldl (fun a => (h a).address) as
  voice := .foldl (fun a => (h a).voice) as

theorem Vlan.Overwritten.again {change : Vlan → Vlan} (h : Overwritten change) (vlan : Vlan) :
    (change (change vlan)).withoutMembers = (change vlan).withoutMembers := by
  have hfields (v : Vlan) : v.withoutMembers =
      { id := v.id, name := v.name, address := v.address, voice := v.voice } := rfl
  rw [hfields, hfields, h.id.again, h.name.again, h.address.again, h.voice.again]

structure Port.Overwritten (change : Port → Port) : Prop where
  id : Overwrites change Port.id
  description : Overwrites change Port.description
  mode : Overwrites change Port.mode
  accessVlan : Overwrites change Port.accessVlan
  voiceVlan : Overwrites change Port.voiceVlan
  power : Overwrites change Port.power
  trustsMarking : Overwrites change Port.trustsMarking
  shutdown : Overwrites change Port.shutdown
  speed : Overwrites change Port.speed

theorem Port.Overwritten.unchanged : Port.Overwritten fun port => port := by
  constructor <;> exact .inl fun _ => rfl

theorem Port.Overwritten.foldl {α : Type} {step : Port → α → Port}
    (h : ∀ a, Overwritten (step · a)) (as : List α) :
    Overwritten fun port => as.foldl step port where
  id := .foldl (fun a => (h a).id) as
  description := .foldl (fun a => (h a).description) as
  mode := .foldl (fun a => (h a).mode) as
  accessVlan := .foldl (fun a => (h a).accessVlan) as
  voiceVlan := .foldl (fun a => (h a).voiceVlan) as
  power := .foldl (fun a => (h a).power) as
  trustsMarking := .foldl (fun a => (h a).trustsMarking) as
  shutdown := .foldl (fun a => (h a).shutdown) as
  speed := .foldl (fun a => (h a).speed) as

theorem Port.Overwritten.again {change : Port → Port} (h : Overwritten change) (port : Port)
    (native : (change (change port)).nativeVlan = (change port).nativeVlan)
    (trunk : ∀ vlan, vlan ∈ (change (change port)).trunkVlans ↔ vlan ∈ (change port).trunkVlans) :
    (change (change port)).withoutKept.UpToOrder (change port).withoutKept := by
  have hfields (p : Port) : ({ p.withoutKept with trunkVlans := [] } : Port) =
      { id := p.id, description := p.description, mode := p.mode, accessVlan := p.accessVlan
        voiceVlan := p.voiceVlan, nativeVlan := p.nativeVlan, power := p.power
        trustsMarking := p.trustsMarking, shutdown := p.shutdown, speed := p.speed } := rfl
  refine ⟨?_, trunk⟩
  rw [hfields, hfields, h.id.again, h.description.again, h.mode.again, h.accessVlan.again,
    h.voiceVlan.again, native, h.power.again, h.trustsMarking.again, h.shutdown.again,
    h.speed.again]

namespace Network

variable {network once : Network}

theorem hostname?_of_twice (h : network.device = once.device ++ once.device) :
    network.hostname? = once.hostname? := by
  rw [hostname?, h, List.reverse_append, List.findSome?_append, Option.or_self]
  rfl

theorem location?_of_twice (h : network.device = once.device ++ once.device) :
    network.location? = once.location? := by
  rw [location?, h, List.findSome?_append, Option.or_self]
  rfl

end Network

namespace Ios

theorem PortStatement.overwritten (statement : PortStatement) :
    Port.Overwritten statement.apply := by
  cases statement with
  | trunk vlans =>
    have htrunk : PortStatement.apply (.trunk vlans) = fun port =>
        { port with trunkVlans := vlans.foldl appendNew port.trunkVlans } :=
      funext fun port => foldl_addTrunkVlan port vlans
    rw [htrunk]
    constructor <;> exact .inl fun _ => rfl
  | power enabled kept =>
    cases kept <;> constructor <;> first | exact .inl fun _ => rfl | exact .inr ⟨_, fun _ => rfl⟩
  -- every other statement writes a field or two and leaves the rest
  | _ => constructor <;> first | exact .inl fun _ => rfl | exact .inr ⟨_, fun _ => rfl⟩

theorem PortStatement.overwrites_nativeVlan (statement : PortStatement) :
    Overwrites statement.apply Port.nativeVlan := by
  cases statement with
  | native vlan => exact .inr ⟨vlan, fun _ => rfl⟩
  | trunk vlans => exact .inl fun port => by rw [apply, foldl_addTrunkVlan]
  | power enabled kept => cases kept <;> exact .inl fun _ => rfl
  | _ => exact .inl fun _ => rfl

theorem VlanStatement.overwritten (statement : VlanStatement) :
    Vlan.Overwritten statement.apply := by
  cases statement <;> constructor <;>
    first | exact .inl fun _ => rfl | exact .inr ⟨_, fun _ => rfl⟩

theorem withoutMembers_foldl (statements : List VlanStatement) (vlan : Vlan) :
    (statements.foldl (fun v s => s.apply v) vlan).withoutMembers =
      statements.foldl (fun v s => s.apply v) vlan.withoutMembers :=
  (List.foldl_hom Vlan.withoutMembers fun _ s => by cases s <;> rfl).symm

/-- What is done again to an IOS network makes no difference. -/
theorem sameShown_again {as : List Action} (h : Ordered as) :
    AosCx.SameShown (replay start (as ++ as)) (replay start as) := by
  have hagain : Ordered (as ++ as) := h.append h
  have hdevice : (replay start (as ++ as)).device =
      (replay start as).device ++ (replay start as).device := by
    rw [device_replay, device_replay, List.filterMap_append]
    rfl
  constructor
  case source => rw [source_replay, source_replay]
  case hostname => exact Network.hostname?_of_twice hdevice
  case location => exact Network.location?_of_twice hdevice
  case vlans =>
    intro id
    have hstatements : vlanStatementsOf id (as ++ as) =
        vlanStatementsOf id as ++ vlanStatementsOf id as := List.filterMap_append
    have hvlan := (Vlan.Overwritten.foldl VlanStatement.overwritten
      (vlanStatementsOf id as)).again { id }
    -- a new VLAN has no members, and its statements add none
    simp only [withoutMembers_foldl] at hvlan
    rw [get?_vlans_withoutMembers hagain, get?_vlans_withoutMembers h, hstatements,
      List.foldl_append]
    simp only [List.mem_append, or_self]
    exact congrArg (fun vlan => if Action.openVlan id ∈ as then some vlan else none) hvlan
  case portIds =>
    intro id
    rw [mem_ports_keys_replay hagain, mem_ports_keys_replay h, List.mem_append, or_self]
  case ports =>
    intro id port other hport hother
    have hstatements : statementsOf id (as ++ as) = statementsOf id as ++ statementsOf id as :=
      List.filterMap_append
    have hopen : Action.openPort id ∈ as :=
      (mem_ports_keys_replay h).mp (OrderedMap.mem_keys_of_get? hother)
    rw [get?_ports_replay hagain, if_pos (List.mem_append_left as hopen), hstatements,
      List.foldl_append] at hport
    rw [get?_ports_replay h, if_pos hopen] at hother
    cases hport
    cases hother
    refine (Port.Overwritten.foldl PortStatement.overwritten (statementsOf id as)).again _ ?_ ?_
    · exact (Overwrites.foldl PortStatement.overwrites_nativeVlan (statementsOf id as)).again _
    · intro vlan
      exact Replay.foldl_collect_again (P := fun r : Port => vlan ∈ r.trunkVlans)
        (fun r s => s.mem_trunkVlans_apply r vlan) _ _

end Ios

namespace ProCurve

theorem PortStatement.overwritten (statement : PortStatement) :
    Port.Overwritten statement.apply := by
  cases statement <;> constructor <;>
    first | exact .inl fun _ => rfl | exact .inr ⟨_, fun _ => rfl⟩

theorem VlanStatement.overwritten_onVlan (statement : VlanStatement) :
    Vlan.Overwritten statement.onVlan := by
  cases statement <;> constructor <;>
    first | exact .inl fun _ => rfl | exact .inr ⟨_, fun _ => rfl⟩

/-- To be listed by a VLAN changes no setting of a port but its VLANs. -/
theorem VlanStatement.overwritten_onPort (statement : VlanStatement) (vlan key : Text) :
    Port.Overwritten (statement.onPort vlan key) := by
  cases statement with
  | tagged ports =>
    rw [onPort]
    split
    · constructor <;> exact .inl fun _ => rfl
    · exact .unchanged
  | untagged ports =>
    rw [onPort]
    split
    · constructor <;> first | exact .inl fun _ => rfl | exact .inr ⟨_, fun _ => rfl⟩
    · exact .unchanged
  | _ => exact .unchanged

theorem Action.overwritten_onVlan (a : Action) (key : Text) : Vlan.Overwritten (a.onVlan key) := by
  cases a with
  | inVlan id statement =>
    rw [onVlan]
    split
    · exact statement.overwritten_onVlan
    · exact .unchanged
  | _ => exact .unchanged

theorem Action.overwritten_onPort (a : Action) (key : Text) : Port.Overwritten (a.onPort key) := by
  cases a with
  | inVlan id statement => exact statement.overwritten_onPort id key
  | inPort id statement =>
    rw [onPort]
    split
    · exact statement.overwritten
    · exact .unchanged
  | _ => exact .unchanged

/-- What is done again to a ProCurve network makes no difference. -/
theorem sameShown_again (as : List Action) :
    AosCx.SameShown (replay start (as ++ as)) (replay start as) := by
  have hdevice : (replay start (as ++ as)).device =
      (replay start as).device ++ (replay start as).device := by
    rw [device_replay, device_replay, List.filterMap_append]
    rfl
  have hmem (a : Action) : a ∈ as ++ as ↔ a ∈ as := by rw [List.mem_append, or_self]
  constructor
  case source => rw [source_replay, source_replay]
  case hostname => exact Network.hostname?_of_twice hdevice
  case location => exact Network.location?_of_twice hdevice
  case vlans =>
    intro id
    have hkeys : id ∈ (replay start (as ++ as)).vlans.keys ↔
        id ∈ (replay start as).vlans.keys := by
      simp only [mem_vlans_keys_replay, hmem]
    by_cases hkey : id ∈ (replay start as).vlans.keys
    · rw [get?_vlans_of_mem (hkeys.mpr hkey), get?_vlans_of_mem hkey, Option.map_some,
        Option.map_some, vlanAt_replay, vlanAt_replay, List.foldl_append,
        (Vlan.Overwritten.foldl (fun a => Action.overwritten_onVlan a id) as).again]
    · rw [OrderedMap.get?_eq_none_iff.mpr hkey,
        OrderedMap.get?_eq_none_iff.mpr fun hagain => hkey (hkeys.mp hagain)]
  case portIds =>
    intro id
    simp only [mem_ports_keys_replay, hmem]
  case ports =>
    intro id port other hport hother
    rw [← portAt_of_get? hport, ← portAt_of_get? hother, portAt_replay, portAt_replay,
      List.foldl_append]
    refine (Port.Overwritten.foldl (fun a => Action.overwritten_onPort a id) as).again _ ?_ ?_
    · exact Replay.foldl_keepFirst_again (f := Port.nativeVlan)
        (fun r a => a.nativeVlan_onPort id r) _ _
    · intro vlan
      exact Replay.foldl_collect_again (P := fun r : Port => vlan ∈ r.trunkVlans)
        (fun r a => a.mem_trunkVlans_onPort id r vlan) _ _

end ProCurve

theorem Ios.actions_again (text : Text) :
    actions (text ++ "\n!\n".toList ++ text) = actions text ++ actions text := by
  have hlines : Text.significantLines (text ++ "\n!\n".toList ++ text) =
      Text.significantLines text ++ (['!'] :: Text.significantLines text) := by
    have hjoined : text ++ "\n!\n".toList ++ text = text ++ '\n' :: (['!'] ++ '\n' :: text) := by
      simp
    rw [hjoined, Text.significantLines_append, Text.significantLines_append]
    rfl
  rw [actions, hlines, Block.actions_append, Block.actions, Block.read_close]
  rfl

theorem ProCurve.actions_again (text : Text) :
    actions (text ++ "\nexit\n".toList ++ text) = actions text ++ actions text := by
  have hlines : Text.significantLines (text ++ "\nexit\n".toList ++ text) =
      Text.significantLines text ++ ("exit".toList :: Text.significantLines text) := by
    have hjoined : text ++ "\nexit\n".toList ++ text =
        text ++ '\n' :: ("exit".toList ++ '\n' :: text) := by simp
    rw [hjoined, Text.significantLines_append, Text.significantLines_append]
    rfl
  rw [actions, hlines, Block.readAll_append, Block.readAll, Block.read_exit]
  rfl

/-- A configuration that is repeated, after a line that closes the open block, is written for AOS-CX
as it is written once. -/
theorem repetition_immaterial (text : Text) (profile : SiteProfile) :
    (Direction.iosToAosCx.translate (text ++ "\n!\n".toList ++ text) profile).output =
        (Direction.iosToAosCx.translate text profile).output ∧
      (Direction.proCurveToAosCx.translate (text ++ "\nexit\n".toList ++ text) profile).output =
        (Direction.proCurveToAosCx.translate text profile).output := by
  constructor
  · have hsame : AosCx.SameShown (Ios.read (text ++ "\n!\n".toList ++ text)) (Ios.read text) := by
      rw [Ios.read_eq_replay, Ios.read_eq_replay, Ios.actions_again]
      exact Ios.sameShown_again (Ios.ordered_actions text)
    rw [Direction.output_translate, Direction.output_translate]
    exact hsame.write_eq (Ios.keyed_read _) (Ios.keyed_read text) profile
  · have hsame : AosCx.SameShown (ProCurve.read (text ++ "\nexit\n".toList ++ text))
        (ProCurve.read text) := by
      rw [ProCurve.read_eq_replay, ProCurve.read_eq_replay, ProCurve.actions_again]
      exact ProCurve.sameShown_again (ProCurve.actions text)
    rw [Direction.output_translate, Direction.output_translate]
    exact hsame.write_eq (ProCurve.keyed_read _) (ProCurve.keyed_read text) profile

end SwitchDialects
