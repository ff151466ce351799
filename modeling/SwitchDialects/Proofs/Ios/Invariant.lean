import SwitchDialects.Proofs.Ios.Wording

/-!
# The invariant of the reader

What holds whenever the reader is between two lines, whatever the lines were. The block that is open
has a record, so no statement is lost on its way there; a record is found under its own number; and
what a port or a VLAN holds is what the lines so far have put there.
-/

namespace SwitchDialects

open Text

def KeptStatement.description? : KeptStatement → Option Text
  | .description text => some text
  | _ => none

/-- The description of the last kept statement that gives one. -/
def Port.keptDescription (port : Port) : Option Text :=
  (port.kept.filterMap KeptStatement.description?).getLast?

namespace Ios

def State.after (lines : List Text) : State := lines.foldl State.step .initial

/-- A line of this wording stands in the block of the port, at a time when the VLAN has a record. -/
def Named (wording : Text → Prop) (lines : List Text) (port vlan : Text) : Prop :=
  ∃ before line rest, lines = before ++ line :: rest ∧
    (State.after before).block = .port port ∧ wording line ∧
    vlan ∈ (State.after before).network.vlans.keys

/-- What holds after the lines that were read. -/
structure Invariant (lines : List Text) (state : State) : Prop where
  keyed : state.network.Keyed
  vlan_open : ∀ id routed, state.block = .vlan id routed → id ∈ state.network.vlans.keys
  port_open : ∀ id, state.block = .port id → id ∈ state.network.ports.keys
  vlan_number : ∀ id ∈ state.network.vlans.keys, Decimal.isNumber id = true
  port_number : ∀ id ∈ state.network.ports.keys, Decimal.isNumber id = true
  member_port : ∀ port vlan, state.network.HasUntagged port vlan ∨
    state.network.HasTagged port vlan → port ∈ state.network.ports.keys
  /-- A port is untagged exactly where an access statement named the VLAN. -/
  untagged_iff : ∀ port vlan, state.network.HasUntagged port vlan ↔
    Named (fun line => VlanKeyword.access.word? line = some vlan) lines port vlan
  /-- A port is tagged exactly where a voice statement named the VLAN, or an accepted list did. -/
  tagged_iff : ∀ port vlan, state.network.HasTagged port vlan ↔
    Named (fun line => VlanKeyword.voice.word? line = some vlan ∨
      ∃ list, acceptedList? line = some list ∧ vlan ∈ NumberList.vlans list) lines port vlan
  shutdown : ∀ id port, state.network.ports.get? id = some port → port.shutdown ≠ .unspecified
  trunk_nodup : ∀ id port, state.network.ports.get? id = some port → port.trunkVlans.Nodup
  description : ∀ id port, state.network.ports.get? id = some port →
    port.description = port.keptDescription
  speed : ∀ id port, state.network.ports.get? id = some port → port.speed = none
  voice : ∀ id vlan, state.network.vlans.get? id = some vlan → vlan.voice = false

theorem State.network_after (lines : List Text) :
    (State.after lines).network = replay start (Block.none.actions lines) :=
  foldl_step_network .initial lines

theorem State.block_after (lines : List Text) :
    (State.after lines).block = Block.none.after lines :=
  foldl_step_block .initial lines

theorem ordered_lines (lines : List Text) : Ordered (Block.none.actions lines) :=
  Ordered.nil.block_actions (show Block.none.OpenedBy [] from trivial) lines

theorem plain_lines {lines : List Text} (visible : ∀ line ∈ lines, Significant line) {a : Action}
    (ha : a ∈ Block.none.actions lines) : a.Plain := by
  obtain ⟨block, line, hline, hread⟩ := Block.exists_line_of_mem ha
  exact plain_of_read (visible line hline) hread

theorem named_concat {wording : Text → Prop} {lines : List Text} {line port vlan : Text} :
    Named wording (lines ++ [line]) port vlan ↔ Named wording lines port vlan ∨
      (State.after lines).block = .port port ∧ wording line ∧
        vlan ∈ (State.after lines).network.vlans.keys := by
  constructor
  · rintro ⟨before, read, rest, h, hnamed⟩
    rcases List.eq_nil_or_concat rest with rfl | ⟨rest, last, rfl⟩
    · obtain ⟨rfl, hline⟩ := List.append_inj' h rfl
      obtain rfl := List.singleton_inj.mp hline
      exact Or.inr hnamed
    · have h' : lines ++ [line] = (before ++ read :: rest) ++ [last] := by simpa using h
      obtain ⟨rfl, _⟩ := List.append_inj' h' rfl
      exact Or.inl ⟨before, read, rest, rfl, hnamed⟩
  · rintro (⟨before, read, rest, rfl, hnamed⟩ | hnamed)
    · exact ⟨before, read, rest ++ [line], by simp, hnamed⟩
    · exact ⟨lines, line, [], rfl, hnamed⟩

/-- Lines name a VLAN that has a record exactly if their statements do so after its header. -/
theorem named_iff_joined {names : PortStatement → List Text} {wording : Text → Prop}
    {lines : List Text} {port vlan : Text}
    (hwording : ∀ line, (isBody line = true ∧ ∃ statement,
      PortStatement.ofLine? line = some statement ∧ vlan ∈ names statement) ↔ wording line) :
    Named wording lines port vlan ↔ Joined names (Block.none.actions lines) port vlan := by
  induction lines using List.reverseRecOn with
  | nil =>
    refine iff_of_false ?_ fun h => absurd h.openVlan_mem (List.not_mem_nil)
    rintro ⟨before, line, rest, h, _⟩
    simp at h
  | append_singleton lines line ih =>
    have hopen : vlan ∈ (State.after lines).network.vlans.keys ↔
        .openVlan vlan ∈ Block.none.actions lines := by
      rw [State.network_after, mem_vlans_keys_replay]
    rw [named_concat, ih, hopen, State.block_after, Block.actions_concat, ← hwording]
    constructor
    · rintro (hj | ⟨hblock, ⟨hbody, statement, hread, hnames⟩, hvlan⟩)
      · cases ((Block.none.after lines).read line).1 with
        | none => simpa using hj
        | some a => exact joined_concat.mpr (Or.inl hj)
      · rw [Block.read_eq_inPort.mpr ⟨hblock, hbody, hread⟩]
        exact joined_concat.mpr (Or.inr ⟨⟨statement, rfl, hnames⟩, hvlan⟩)
    · intro hj
      cases hact : ((Block.none.after lines).read line).1 with
      | none => exact Or.inl (by simpa [hact] using hj)
      | some a =>
        rw [hact] at hj
        rcases joined_concat.mp hj with hj | ⟨⟨statement, rfl, hnames⟩, hvlan⟩
        · exact Or.inl hj
        · obtain ⟨hblock, hbody, hread⟩ := Block.read_eq_inPort.mp hact
          exact Or.inr ⟨hblock, ⟨hbody, statement, hread, hnames⟩, hvlan⟩

structure SoundPort (port : Port) : Prop where
  shutdown : port.shutdown ≠ .unspecified
  trunk_nodup : port.trunkVlans.Nodup
  description : port.description = port.keptDescription
  speed : port.speed = none

theorem SoundPort.apply {port : Port} (h : SoundPort port) (statement : PortStatement) :
    SoundPort (statement.apply port) := by
  obtain ⟨hshutdown, htrunk, hdescription, hspeed⟩ := h
  -- a statement that is kept without a description leaves the last one where it was
  have hkeep (k : KeptStatement) (hk : k.description? = none) :
      port.description = (port.keep k).keptDescription := by
    simpa [Port.keptDescription, Port.keep, hk] using hdescription
  cases statement with
  | description text =>
    refine ⟨hshutdown, htrunk, ?_, hspeed⟩
    simp [PortStatement.apply, Port.keep, Port.keptDescription, KeptStatement.description?]
  | trunk vlans =>
    rw [PortStatement.apply, foldl_addTrunkVlan]
    exact ⟨hshutdown, nodup_foldl_appendNew htrunk vlans, hdescription, hspeed⟩
  | power enabled kept =>
    cases kept with
    | false => exact ⟨hshutdown, htrunk, hdescription, hspeed⟩
    | true => exact ⟨hshutdown, htrunk, hkeep (.power enabled) rfl, hspeed⟩
  | «open» => exact ⟨by simp [PortStatement.apply], htrunk, hdescription, hspeed⟩
  | shut =>
    exact ⟨by simp [PortStatement.apply, Port.keep], htrunk, hkeep .shutdown rfl, hspeed⟩
  | _ => exact ⟨hshutdown, htrunk, hdescription, hspeed⟩

theorem soundPort_replay {as : List Action} (ordered : Ordered as) {id : Text} {port : Port}
    (hget : (replay start as).ports.get? id = some port) : SoundPort port := by
  rw [get?_ports_replay ordered] at hget
  split at hget
  · cases hget
    exact Replay.foldl_keeps (fun _ statement _ h => h.apply statement)
      ⟨by simp, List.nodup_nil, rfl, rfl⟩
  · cases hget

/-- The invariant holds after any lines that a reader may see. -/
theorem invariant_after {lines : List Text} (visible : ∀ line ∈ lines, Significant line) :
    Invariant lines (State.after lines) := by
  have ordered := ordered_lines lines
  have plain : ∀ a ∈ Block.none.actions lines, a.Plain := fun _ => plain_lines visible
  have hopened : (Block.none.after lines).OpenedBy (Block.none.actions lines) :=
    Block.after_opened (show Block.none.OpenedBy [] from trivial) lines
  have hsound : ∀ id port, (replay start (Block.none.actions lines)).ports.get? id = some port →
      SoundPort port := fun _ _ => soundPort_replay ordered
  constructor <;> rw [State.network_after]
  case keyed => exact keyed_replay ordered plain
  case vlan_open =>
    intro id routed hblock
    rw [← State.block_after, hblock] at hopened
    exact mem_vlans_keys_replay.mpr hopened
  case port_open =>
    intro id hblock
    rw [← State.block_after, hblock] at hopened
    exact (mem_ports_keys_replay ordered).mpr hopened
  case vlan_number => exact fun id hid => plain _ (mem_vlans_keys_replay.mp hid)
  case port_number => exact fun id hid => (isPortId_of_mem_keys ordered plain hid).1
  case member_port =>
    rintro port vlan (h | h)
    · exact (hasUntagged_iff.mp h).port_mem ordered
    · exact (hasTagged_iff.mp h).port_mem ordered
  case untagged_iff =>
    intro port vlan
    exact hasUntagged_iff.trans (named_iff_joined fun _ => untaggedVlans_of_line).symm
  case tagged_iff =>
    intro port vlan
    exact hasTagged_iff.trans (named_iff_joined fun _ => taggedVlans_of_line).symm
  case shutdown => exact fun id port hget => (hsound id port hget).shutdown
  case trunk_nodup => exact fun id port hget => (hsound id port hget).trunk_nodup
  case description => exact fun id port hget => (hsound id port hget).description
  case speed => exact fun id port hget => (hsound id port hget).speed
  case voice => exact fun id vlan hget => (plainVlan_replay plain hget).voice

end Ios

end SwitchDialects
