import SwitchDialects.Proofs.Ios.Printed

/-!
# Ports do not interfere

A line in the block of a port acts on the record of this port and on its place in the sets of the
VLANs, and on nothing else. So two IOS configurations that differ only in such lines, in the blocks
of one port, say the same about every other port, about the VLANs and about the device, and the
other ports are written in the same way.
-/

namespace SwitchDialects

open Text

namespace Ios

/-- The lines without those that are left to the blocks of one port. -/
def Block.outside (port : Text) : Block → List Text → List Text
  | _, [] => []
  | block, line :: rest =>
    let others := (block.read line).2.outside port rest
    if block = .port port ∧ isBody line = true then others else line :: others

def Action.spares (port : Text) : Action → Bool
  | .inPort id _ => id != port
  | _ => true

/-- Without the lines in the blocks of a port all is done but the statements about the port. -/
theorem Block.actions_outside (port : Text) (block : Block) (lines : List Text) :
    block.actions (block.outside port lines) =
      (block.actions lines).filter (Action.spares port) := by
  induction lines generalizing block with
  | nil => rfl
  | cons line lines ih =>
    rw [Block.outside, Block.actions, List.filter_append]
    by_cases hline : block = .port port ∧ isBody line = true
    · obtain ⟨rfl, hbody⟩ := hline
      have hnone : ((Block.port port).member line).toList.filter (Action.spares port) = [] := by
        rw [List.filter_eq_nil_iff]
        intro a ha
        obtain ⟨statement, _, rfl⟩ := Option.map_eq_some_iff.mp (Option.mem_toList.mp ha)
        simp [Action.spares]
      rw [if_pos ⟨rfl, hbody⟩, Block.read_body hbody, hnone, ih, List.nil_append]
    · have hall : (block.read line).1.toList.filter (Action.spares port) =
          (block.read line).1.toList := by
        rw [List.filter_eq_self]
        intro a ha
        cases a with
        | inPort id statement =>
          obtain ⟨hblock, hbody, _⟩ := Block.read_eq_inPort.mp (Option.mem_toList.mp ha)
          have hid : id ≠ port := fun e => hline ⟨e ▸ hblock, hbody⟩
          simpa [Action.spares] using hid
        | _ => rfl
      rw [if_neg hline, Block.actions, hall, ih]

section

variable {as : List Action} {port other : Text}

theorem mem_filter_spares {a : Action} (h : a.spares other = true) :
    a ∈ as.filter (Action.spares other) ↔ a ∈ as := by
  rw [List.mem_filter]
  exact and_iff_left h

theorem statementsOf_spares (hne : port ≠ other) :
    statementsOf port (as.filter (Action.spares other)) = statementsOf port as := by
  refine Replay.filterMap_filter_of_imp (fun a ha => ?_) as
  cases a with
  | inPort id statement =>
    by_cases hid : id = port
    · simpa [Action.spares, hid] using hne
    · simp [hid] at ha
  | _ => rfl

theorem vlanStatementsOf_spares (other vlan : Text) :
    vlanStatementsOf vlan (as.filter (Action.spares other)) = vlanStatementsOf vlan as := by
  refine Replay.filterMap_filter_of_imp (fun a ha => ?_) as
  cases a <;> first | rfl | cases ha

/-- The statements about another port neither declare a VLAN nor name it for this port. -/
theorem joined_spares {names : PortStatement → List Text} (hne : port ≠ other) (vlan : Text) :
    Joined names (as.filter (Action.spares other)) port vlan ↔ Joined names as port vlan := by
  induction as using List.reverseRecOn with
  | nil => rfl
  | append_singleton as a ih =>
    rw [List.filter_append, joined_concat, ← ih]
    by_cases ha : a.spares other = true
    · rw [List.filter_cons_of_pos ha, List.filter_nil, joined_concat, mem_filter_spares rfl]
    · rw [List.filter_cons_of_neg ha, List.filter_nil, List.append_nil, iff_self_or]
      rintro ⟨⟨statement, rfl, _⟩, _⟩
      exact absurd (by simpa [Action.spares] using hne) ha

end

/-- Two networks that differ in what they hold of one port at most. -/
structure AgreeBut (other : Text) (a b : Network) : Prop where
  source : a.source = b.source
  device : a.device = b.device
  vlanIds : a.vlans.keys = b.vlans.keys
  /-- The VLANs have the same names and addresses. -/
  vlans : ∀ id, (a.vlans.get? id).map Vlan.withoutMembers =
    (b.vlans.get? id).map Vlan.withoutMembers
  ports : ∀ port, port ≠ other → a.ports.get? port = b.ports.get? port
  untagged : ∀ port, port ≠ other → ∀ id, a.HasUntagged port id ↔ b.HasUntagged port id
  tagged : ∀ port, port ≠ other → ∀ id, a.HasTagged port id ↔ b.HasTagged port id

/-- What is done apart from the statements about one port decides all but this port. -/
theorem agreeBut_replay {as bs : List Action} {other : Text} (ha : Ordered as) (hb : Ordered bs)
    (same : as.filter (Action.spares other) = bs.filter (Action.spares other)) :
    AgreeBut other (replay start as) (replay start bs) := by
  have hmem {a : Action} (hspares : a.spares other = true) : a ∈ as ↔ a ∈ bs := by
    rw [← mem_filter_spares hspares, same, mem_filter_spares hspares]
  have hread {β : Type} {f : Action → Option β}
      (hf : ∀ a, (f a).isSome = true → a.spares other = true) :
      as.filterMap f = bs.filterMap f := by
    rw [← Replay.filterMap_filter_of_imp hf, same, Replay.filterMap_filter_of_imp hf]
  constructor
  case source => rw [source_replay, source_replay]
  case device =>
    rw [device_replay, device_replay, hread fun a h => by cases a <;> first | rfl | cases h]
  case vlanIds =>
    rw [vlans_keys_replay, vlans_keys_replay,
      hread fun a h => by cases a <;> first | rfl | cases h]
  case vlans =>
    intro id
    have hstatements : vlanStatementsOf id as = vlanStatementsOf id bs := by
      rw [← vlanStatementsOf_spares other, same, vlanStatementsOf_spares]
    rw [get?_vlans_withoutMembers ha, get?_vlans_withoutMembers hb, hstatements]
    simp only [hmem (a := .openVlan id) rfl]
  case ports =>
    intro port hne
    have hstatements : statementsOf port as = statementsOf port bs := by
      rw [← statementsOf_spares hne, same, statementsOf_spares hne]
    rw [get?_ports_replay ha, get?_ports_replay hb, hstatements]
    simp only [hmem (a := .openPort port) rfl]
  case untagged =>
    intro port hne id
    rw [hasUntagged_iff, hasUntagged_iff, ← joined_spares hne, same, joined_spares hne]
  case tagged =>
    intro port hne id
    rw [hasTagged_iff, hasTagged_iff, ← joined_spares hne, same, joined_spares hne]

theorem agreeBut_read {text text' other : Text}
    (same : Block.none.outside other (significantLines text) =
      Block.none.outside other (significantLines text')) :
    AgreeBut other (read text) (read text') := by
  rw [read_eq_replay, read_eq_replay]
  refine agreeBut_replay (ordered_actions text) (ordered_actions text') ?_
  rw [actions, actions, ← Block.actions_outside, same, Block.actions_outside]

end Ios

/-- What two IOS configurations have in common that differ in the blocks of one port only. -/
structure Isolated (other text text' : Text) : Prop where
  network : Ios.AgreeBut other (Ios.read text) (Ios.read text')
  /-- The same other ports have a block in what is written for AOS-CX. -/
  header : ∀ port, port ≠ other → ∀ profile : SiteProfile,
    .flush (AosCx.portHeader profile port) ∈
        AosCx.outline (AosCx.prepare (Ios.read text) profile) profile ↔
      .flush (AosCx.portHeader profile port) ∈
        AosCx.outline (AosCx.prepare (Ios.read text') profile) profile
  /-- And their blocks have the same members. -/
  block : ∀ port, port ≠ other → ∀ profile : SiteProfile,
    Outline.membersUnder (AosCx.portHeader profile port)
        (AosCx.outline (AosCx.prepare (Ios.read text) profile) profile) =
      Outline.membersUnder (AosCx.portHeader profile port)
        (AosCx.outline (AosCx.prepare (Ios.read text') profile) profile)
  /-- They are found in the texts, where the profile lets a statement stand on one line. -/
  printed : ∀ port, port ≠ other → ∀ profile : SiteProfile,
    OneLine profile.portStem → OneLine profile.nativeVlan →
    Outline.blockOf AosCx.indent (AosCx.portHeader profile port)
        (Direction.iosToAosCx.translate text profile).output =
      Outline.blockOf AosCx.indent (AosCx.portHeader profile port)
        (Direction.iosToAosCx.translate text' profile).output

/-- Whatever stands in the blocks of one port has no effect on any other. -/
theorem ports_isolated {other text text' : Text}
    (same : Ios.Block.none.outside other (significantLines text) =
      Ios.Block.none.outside other (significantLines text')) : Isolated other text text' := by
  have agree := Ios.agreeBut_read same
  have keyed := Ios.keyed_read text
  have keyed' := Ios.keyed_read text'
  have hblock : ∀ port, port ≠ other → ∀ profile : SiteProfile,
      Outline.membersUnder (AosCx.portHeader profile port)
          (AosCx.outline (AosCx.prepare (Ios.read text) profile) profile) =
        Outline.membersUnder (AosCx.portHeader profile port)
          (AosCx.outline (AosCx.prepare (Ios.read text') profile) profile) := by
    intro port hne profile
    rw [AosCx.membersUnder_prepare keyed, AosCx.membersUnder_prepare keyed', agree.ports port hne,
      agree.source]
  constructor
  case network => exact agree
  case header =>
    intro port hne profile
    rw [AosCx.portHeader_mem_outline, AosCx.portHeader_mem_outline, portIds_prepare keyed,
      portIds_prepare keyed', ← OrderedMap.get?_isSome_iff, agree.ports port hne,
      OrderedMap.get?_isSome_iff]
  case block => exact hblock
  case printed =>
    intro port hne profile hstem hsite
    have hfound (t : Text) := AosCx.blockOf_write (Ios.fitting t) hstem hsite port
    exact (hfound text).trans ((hblock port hne profile).trans (hfound text').symm)

def twoDesks : Text :=
  ("vlan 10\ninterface Gi0/2\n switchport access vlan 10\n" ++
    "interface Gi0/1\n shutdown\ninterface Gi0/2\n shutdown\n").toList

def movedDesk : Text :=
  ("vlan 10\ninterface Gi0/2\n description spare\n" ++
    "interface Gi0/1\n shutdown\ninterface Gi0/2\n").toList

theorem moved_desk_isolated :
    Ios.Block.none.outside "2".toList (significantLines twoDesks) =
        Ios.Block.none.outside "2".toList (significantLines movedDesk) ∧
      Ios.read twoDesks ≠ Ios.read movedDesk ∧
      Isolated "2".toList twoDesks movedDesk := by
  have same : Ios.Block.none.outside "2".toList (significantLines twoDesks) =
      Ios.Block.none.outside "2".toList (significantLines movedDesk) := by decide +kernel
  exact ⟨same, by decide +kernel, ports_isolated same⟩

end SwitchDialects
