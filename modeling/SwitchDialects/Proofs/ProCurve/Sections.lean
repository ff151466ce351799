import SwitchDialects.Proofs.ProCurve.Membership
import SwitchDialects.Proofs.ProCurve.Written

/-!
# Sections of a ProCurve configuration

A section is a header, the lines in its block and the `exit` that closes it. A text made of sections
does what they do in turn. The statements of a section are all made in one block, but those in the
block of a VLAN act on the ports that they list as well.
-/

namespace SwitchDialects.ProCurve

open Text

def opened? (line : Text) : Option Block :=
  match location? line with
  | some _ => none
  | none =>
    match vlanHeader? line with
    | some id => some (.vlan id)
    | none => (portHeader? line).map .port

/-- Whether a line is left to the block it stands in: it is no header, ends no block and says
nothing about the device. -/
def Block.owns : Block → Text → Bool
  | .none, _ => false
  | .vlan _, line => (location? line).isNone && (vlanHeader? line).isNone && !endsVlan line
  | .port _, line => (location? line).isNone && (vlanHeader? line).isNone &&
      (portHeader? line).isNone && (hostname? line).isNone && !endsPort line

/-- The block that an action belongs to. -/
def Action.block? : Action → Option Block
  | .declare _ => none
  | .openVlan id | .inVlan id _ => some (.vlan id)
  | .openPort id | .inPort id _ => some (.port id)

/-- A header and the lines in its block. -/
structure Section where
  header : Text
  block : Block
  body : List Text
  opens : opened? header = some block
  inside : ∀ line ∈ body, block.owns line = true

namespace Section

def lines (s : Section) : List Text := s.header :: s.body ++ ["exit".toList]

def actions (s : Section) : List Action := (Block.none.readAll s.lines).1

/-- A line of the section lists the port untagged in a VLAN. -/
def Untags (s : Section) (port id : Text) : Prop :=
  s.block = .vlan id ∧ ∃ line ∈ s.body, ∃ ports,
    VlanStatement.ofLine? line = some (.untagged ports) ∧ port ∈ ports

end Section

/-- The lines of a text, blank ones aside, are those of the sections in turn. -/
def MadeOf (sections : List Section) (text : Text) : Prop :=
  Text.significantLines text = sections.flatMap Section.lines

/-- The same sections in another order, where those with one VLAN or one port keep theirs. -/
structure Reordered (sections others : List Section) : Prop where
  perm : sections.Perm others
  order : ∀ block, sections.filter (·.block = block) = others.filter (·.block = block)

def UntaggedOnce (sections : List Section) : Prop :=
  ∀ s ∈ sections, ∀ t ∈ sections, ∀ port id other, s.Untags port id → t.Untags port other →
    id = other

theorem opened?_vlan {digits : Text} (h : Decimal.isNumber digits = true) :
    opened? ("vlan ".toList ++ digits) = some (.vlan digits) := by
  have hlocation : location? ("vlan ".toList ++ digits) = none := rfl
  rw [opened?, hlocation, vlanHeader?_append h]

theorem opened?_port {digits : Text} (h : Decimal.isNumber digits = true) :
    opened? ("interface ".toList ++ digits) = some (.port digits) := by
  have hlocation : location? ("interface ".toList ++ digits) = none := rfl
  have hvlan : vlanHeader? ("interface ".toList ++ digits) = none := rfl
  rw [opened?, hlocation, hvlan, portHeader?_append h]
  rfl

namespace Section

variable (digits : Text) (h : Decimal.isNumber digits = true) (body : List Text)

def ofVlan (inside : ∀ line ∈ body, (Block.vlan digits).owns line = true) : Section :=
  ⟨"vlan ".toList ++ digits, .vlan digits, body, opened?_vlan h, inside⟩

def ofPort (inside : ∀ line ∈ body, (Block.port digits).owns line = true) : Section :=
  ⟨"interface ".toList ++ digits, .port digits, body, opened?_port h, inside⟩

end Section

def Block.opening? : Block → Option Action
  | .none => Option.none
  | .vlan id => some (.openVlan id)
  | .port id => some (.openPort id)

def Block.statement? : Block → Text → Option Action
  | .none, _ => Option.none
  | .vlan id, line => (VlanStatement.ofLine? line).map (.inVlan id)
  | .port id, line => (PortStatement.ofLine? line).map (.inPort id)

theorem Block.read_opens {line : Text} {block : Block} (h : opened? line = some block) :
    Block.none.read line = (block.opening?, block) := by
  unfold opened? at h
  unfold Block.read
  cases hlocation : location? line with
  | some text => simp [hlocation] at h
  | none =>
    cases hvlan : vlanHeader? line with
    | some id =>
      obtain rfl : Block.vlan id = block := by simpa [hlocation, hvlan] using h
      rfl
    | none =>
      cases hport : portHeader? line with
      | none => simp [hlocation, hvlan, hport] at h
      | some id =>
        obtain rfl : Block.port id = block := by simpa [hlocation, hvlan, hport] using h
        rfl

theorem Block.read_owned {block : Block} {line : Text} (h : block.owns line = true) :
    block.read line = (block.statement? line, block) := by
  cases block with
  | none => cases h
  | vlan id =>
    simp only [Block.owns, Bool.and_eq_true, Option.isNone_iff_eq_none, Bool.not_eq_true'] at h
    obtain ⟨⟨hlocation, hvlan⟩, hends⟩ := h
    simp [Block.read, hlocation, hvlan, hends, Block.statement?]
  | port id =>
    simp only [Block.owns, Bool.and_eq_true, Option.isNone_iff_eq_none, Bool.not_eq_true'] at h
    obtain ⟨⟨⟨⟨hlocation, hvlan⟩, hport⟩, hhostname⟩, hends⟩ := h
    simp only [Block.read, hlocation, hvlan, hport, Block.readOther, hhostname, hends,
      Block.statement?, Bool.false_eq_true, if_false]
    cases PortStatement.ofLine? line <;> rfl

theorem Block.read_exit (block : Block) : block.read "exit".toList = (Option.none, .none) := by
  cases block <;> rfl

/-- The lines inside a block and the one that closes it. -/
theorem Block.readAll_body {block : Block} {body : List Text}
    (inside : ∀ line ∈ body, block.owns line = true) :
    block.readAll (body ++ ["exit".toList]) = (body.filterMap block.statement?, .none) := by
  induction body with
  | nil => exact Block.readAll_singleton block.read_exit
  | cons line body ih =>
    rw [List.cons_append, Block.readAll, Block.read_owned (inside line (by simp)),
      ih fun l hl => inside l (by simp [hl])]
    cases hstatement : block.statement? line <;> simp [hstatement]

/-- A section opens its block, makes the statements in it and closes it. -/
theorem Section.readAll_lines (s : Section) :
    Block.none.readAll s.lines =
      (s.block.opening?.toList ++ s.body.filterMap s.block.statement?, .none) := by
  rw [Section.lines, List.cons_append, Block.readAll, Block.read_opens s.opens,
    Block.readAll_body s.inside]

theorem Section.actions_eq (s : Section) :
    s.actions = s.block.opening?.toList ++ s.body.filterMap s.block.statement? := by
  rw [Section.actions, s.readAll_lines]

theorem MadeOf.actions_eq {sections : List Section} {text : Text} (h : MadeOf sections text) :
    ProCurve.actions text = sections.flatMap Section.actions := by
  have hsection : ∀ s ∈ sections, Block.none.readAll s.lines = (s.actions, .none) := by
    intro s _
    rw [s.actions_eq, s.readAll_lines]
  rw [ProCurve.actions, h, readAll_flatMap hsection]

/-- All that a section does belongs to its block. -/
theorem Section.block?_of_mem_actions (s : Section) : ∀ a ∈ s.actions, a.block? = some s.block := by
  intro a ha
  rw [s.actions_eq, List.mem_append, Option.mem_toList, List.mem_filterMap] at ha
  cases hblock : s.block with
  | none => simp [hblock, Block.opening?, Block.statement?] at ha
  | vlan id =>
    rw [hblock] at ha
    rcases ha with ha | ⟨line, _, ha⟩
    · cases ha
      rfl
    · obtain ⟨statement, _, rfl⟩ := Option.map_eq_some_iff.mp ha
      rfl
  | port id =>
    rw [hblock] at ha
    rcases ha with ha | ⟨line, _, ha⟩
    · cases ha
      rfl
    · obtain ⟨statement, _, rfl⟩ := Option.map_eq_some_iff.mp ha
      rfl

/-- A port that a section lists is listed by one of its lines. -/
theorem Section.untags_of_mem_actions {s : Section} {id : Text} {ports : List Text}
    (h : .inVlan id (.untagged ports) ∈ s.actions) {port : Text} (hport : port ∈ ports) :
    s.Untags port id := by
  have hblock : s.block = .vlan id := (Option.some.inj (s.block?_of_mem_actions _ h)).symm
  rw [s.actions_eq, hblock, List.mem_append, Option.mem_toList, List.mem_filterMap] at h
  rcases h with h | ⟨line, hline, h⟩
  · cases h
  · obtain ⟨statement, hread, hsame⟩ := Option.map_eq_some_iff.mp h
    cases hsame
    exact ⟨hblock, line, hline, ports, hread, hport⟩

end SwitchDialects.ProCurve
