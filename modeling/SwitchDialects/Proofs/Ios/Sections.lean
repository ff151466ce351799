import SwitchDialects.Proofs.Ios.Plain

/-!
# Sections of an IOS configuration

A section is a header, the lines in its block and the `!` that closes it. A text made of sections
does what they do in turn, and all that a section does is about the one record that its header
names; if it names none, the section does nothing. So what is known of a record after the text
depends on the sections about it alone.
-/

namespace SwitchDialects.Ios

open Text

/-- The record that a block is about. -/
inductive Target where
  | vlan (id : Text)
  | port (id : Text)
deriving DecidableEq, Repr

def Header.target? : Header → Option Target
  | .vlan id | .interface (.vlan id) => some (.vlan id)
  | .interface (.port id) => some (.port id)
  | _ => none

def Block.target? : Block → Option Target
  | .none => Option.none
  | .vlan id _ => some (.vlan id)
  | .port id => some (.port id)

def Action.target? : Action → Option Target
  | .declare _ => none
  | .openVlan id | .inVlan id _ => some (.vlan id)
  | .openPort id | .inPort id _ => some (.port id)

/-- Whether a line opens and closes no block and is not about the device. -/
def isInside (line : Text) : Bool :=
  deviceStatement? line = none ∧
    (Header.ofLine? line = none ∨ Header.ofLine? line = some .vlanGlobal)

/-- A header and the lines in its block. -/
structure Section where
  header : Text
  about : Option Target
  body : List Text
  opens : (Header.ofLine? header).map Header.target? = some about
  inside : ∀ line ∈ body, isInside line = true

namespace Section

def lines (s : Section) : List Text := s.header :: s.body ++ [['!']]

def actions (s : Section) : List Action := Block.none.actions s.lines

end Section

/-- The lines of a text, blank ones aside, are those of the sections in turn. -/
def MadeOf (sections : List Section) (text : Text) : Prop :=
  Text.significantLines text = sections.flatMap Section.lines

/-- The same sections in another order, where those about one record keep theirs. -/
structure Reordered (sections others : List Section) : Prop where
  perm : sections.Perm others
  order : ∀ target,
    sections.filter (·.about = some target) = others.filter (·.about = some target)

/-- A header says nothing about the device. -/
theorem deviceStatement?_of_header {line : Text} {header : Header}
    (h : Header.ofLine? line = some header) : deviceStatement? line = none := by
  rw [Header.ofLine?] at h
  rcases of_orElse_eq_some h with h | h
  · obtain ⟨id, hid, _⟩ := Option.map_eq_some_iff.mp h
    obtain ⟨rest, rfl⟩ := exists_eq_append_of_argument? hid
    rfl
  rcases of_orElse_eq_some h with h | h
  · obtain ⟨name, hname, _⟩ := Option.map_eq_some_iff.mp h
    obtain ⟨rest, rfl⟩ := exists_eq_append_of_argument? hname
    rfl
  · split at h
    · rename_i hclose
      rcases hclose with rfl | rfl <;> rfl
    · cases h

/-- `vlan` and a number open the block of that VLAN. -/
theorem vlanHeader_opens {digits : Text} (h : Decimal.isNumber digits = true) :
    (Header.ofLine? ("vlan ".toList ++ digits)).map Header.target? =
      some (some (.vlan digits)) := by
  have hsig := Decimal.significant_of_isNumber h
  have harg : argument? "vlan".toList ("vlan ".toList ++ digits) = some digits :=
    argument?_append hsig.trimmed hsig.ne_nil
  have hall : digits.all Char.isDigit = true :=
    List.all_eq_true.mpr (Decimal.isDigit_of_isNumber h).2
  rw [Header.ofLine?, harg, Option.map_some, if_pos hall]
  rfl

theorem words_eq_singleton {t : Text} (hne : t ≠ []) (hvisible : ∀ c ∈ t, isBlank c = false) :
    words t = [t] := by
  rw [words, List.splitOnP_eq_singleton hvisible]
  simpa using hne

/-- `interface` and a word open the block of what the word names. -/
theorem interfaceHeader_target? {name : Text} (hword : words name = [name]) :
    (Header.ofLine? ("interface ".toList ++ name)).map Header.target? =
      some (Header.interface (.ofName name)).target? := by
  obtain ⟨hne, hvisible⟩ := mem_words (hword ▸ List.mem_singleton_self name)
  have hsig := significant_of_visible hne fun c hc => (hvisible c hc).1
  have harg : argument? "interface".toList ("interface ".toList ++ name) = some name :=
    argument?_append hsig.trimmed hne
  have hvlan : argument? "vlan".toList ("interface ".toList ++ name) = none := rfl
  rw [Header.ofLine?, harg, hvlan, Option.map_some, hword]
  rfl

/-- `interface Vlan` and a number open the block of that VLAN, too. -/
theorem routedHeader_opens {digits : Text} (h : Decimal.isNumber digits = true) :
    (Header.ofLine? ("interface ".toList ++ ("Vlan".toList ++ digits))).map Header.target? =
      some (some (.vlan digits)) := by
  have hvisible : ∀ c ∈ "Vlan".toList ++ digits, isBlank c = false := by
    intro c hc
    rcases List.mem_append.mp hc with hc | hc
    · have hword : "Vlan".toList.all (fun c => !isBlank c) = true := by decide
      simpa using List.all_eq_true.mp hword c hc
    · exact isBlank_of_isDigit ((Decimal.isDigit_of_isNumber h).2 c hc)
  have hname : Interface.ofName ("Vlan".toList ++ digits) = .vlan digits := if_pos h
  rw [interfaceHeader_target? (words_eq_singleton (by simp) hvisible), hname]
  rfl

/-- `interface` and another word that ends in digits open the block of the port with this number. -/
theorem portHeader_opens {name digits : Text} (hword : words name = [name])
    (hport : lower (name.take 4) ≠ "vlan".toList) (hdigits : Decimal.trailing? name = some digits) :
    (Header.ofLine? ("interface ".toList ++ name)).map Header.target? =
      some (some (.port (portId digits))) := by
  rw [interfaceHeader_target? hword, Interface.ofName, if_neg hport, hdigits]
  rfl

namespace Section

variable (body : List Text) (inside : ∀ line ∈ body, isInside line = true)

def ofVlan (digits : Text) (h : Decimal.isNumber digits = true) : Section :=
  ⟨"vlan ".toList ++ digits, some (.vlan digits), body, vlanHeader_opens h, inside⟩

def ofRouted (digits : Text) (h : Decimal.isNumber digits = true) : Section :=
  ⟨"interface ".toList ++ ("Vlan".toList ++ digits), some (.vlan digits), body,
    routedHeader_opens h, inside⟩

def ofPort (name digits : Text) (hword : words name = [name])
    (hport : lower (name.take 4) ≠ "vlan".toList) (hdigits : Decimal.trailing? name = some digits) :
    Section :=
  ⟨"interface ".toList ++ name, some (.port (portId digits)), body,
    portHeader_opens hword hport hdigits, inside⟩

end Section

theorem Block.read_close (block : Block) : block.read ['!'] = (Option.none, .none) := by
  rfl

theorem Section.after_lines (s : Section) (block : Block) : block.after s.lines = .none := by
  rw [Section.lines, Block.after, List.foldl_concat, Block.read_close]

theorem actions_sections (sections : List Section) :
    Block.none.actions (sections.flatMap Section.lines) = sections.flatMap Section.actions := by
  induction sections with
  | nil => rfl
  | cons s sections ih =>
    rw [List.flatMap_cons, Block.actions_append, s.after_lines, ih, List.flatMap_cons]
    rfl

theorem MadeOf.actions_eq {sections : List Section} {text : Text} (h : MadeOf sections text) :
    actions text = sections.flatMap Section.actions := by
  rw [actions, h, actions_sections]

/-- A header acts on the record whose block it opens, if it opens one. -/
theorem Block.read_opens {line : Text} {about : Option Target}
    (h : (Header.ofLine? line).map Header.target? = some about) :
    (∀ a ∈ (Block.none.read line).1, a.target? = about ∧ a.target?.isSome = true) ∧
      (Block.none.read line).2.target? = about := by
  obtain ⟨header, hheader, rfl⟩ := Option.map_eq_some_iff.mp h
  rw [Block.read, deviceStatement?_of_header hheader, hheader]
  rcases header with id | _ | (id | id | _) | _ <;>
    simp [Header.read, Header.target?, Action.target?, Block.target?]

/-- A line inside a block acts on the record of the block and leaves it open. -/
theorem Block.read_inside {line : Text} (h : isInside line = true) (block : Block) :
    (∀ a ∈ (block.read line).1, a.target? = block.target? ∧ a.target?.isSome = true) ∧
      (block.read line).2 = block := by
  obtain ⟨hdevice, hheader⟩ := of_decide_eq_true h
  rw [Block.read, hdevice]
  rcases hheader with hheader | hheader
  · rw [hheader]
    refine ⟨fun a ha => ?_, rfl⟩
    cases block with
    | none => cases ha
    | vlan id routed =>
      obtain ⟨statement, _, rfl⟩ := Option.map_eq_some_iff.mp ha
      exact ⟨rfl, rfl⟩
    | port id =>
      obtain ⟨statement, _, rfl⟩ := Option.map_eq_some_iff.mp ha
      exact ⟨rfl, rfl⟩
  · rw [hheader]
    exact ⟨by simp [Header.read], rfl⟩

theorem Block.target?_of_mem_actions {block : Block} {body : List Text}
    (inside : ∀ line ∈ body, isInside line = true) :
    ∀ a ∈ block.actions (body ++ [['!']]),
      a.target? = block.target? ∧ a.target?.isSome = true := by
  induction body with
  | nil => simp [Block.actions, Block.read_close]
  | cons line body ih =>
    obtain ⟨hline, hblock⟩ := Block.read_inside (inside line (by simp)) block
    intro a ha
    rw [List.cons_append, Block.actions, hblock, List.mem_append, Option.mem_toList] at ha
    rcases ha with ha | ha
    · exact hline a ha
    · exact ih (fun l hl => inside l (by simp [hl])) a ha

theorem Section.target?_of_mem_actions (s : Section) :
    ∀ a ∈ s.actions, a.target? = s.about ∧ a.target?.isSome = true := by
  obtain ⟨hheader, hblock⟩ := Block.read_opens s.opens
  intro a ha
  rw [Section.actions, Section.lines, List.cons_append, Block.actions, List.mem_append,
    Option.mem_toList] at ha
  rcases ha with ha | ha
  · exact hheader a ha
  · rw [← hblock]
    exact Block.target?_of_mem_actions s.inside a ha

/-- What is done to one record is what the sections about it do. -/
theorem filter_actions_sections (sections : List Section) (target : Target) :
    (sections.flatMap Section.actions).filter (·.target? = some target) =
      (sections.filter (·.about = some target)).flatMap Section.actions :=
  Replay.filter_flatMap_of_key (fun s a ha => (s.target?_of_mem_actions a ha).1) sections _

end SwitchDialects.Ios
