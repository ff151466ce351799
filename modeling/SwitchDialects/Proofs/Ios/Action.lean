import Mathlib.Data.List.Induction
import SwitchDialects.Ios.Reader
import SwitchDialects.Proofs.OrderedMap
import SwitchDialects.Proofs.Replay
import SwitchDialects.Proofs.Text.Lines

/-!
# Actions of an IOS configuration

Which block is open depends on the lines alone, never on the network read so far. So a text first
becomes a list of actions, each naming the VLAN or the port it is about, and the network is what
the actions do one after the other. All that is proved about the reader is proved by induction on
this list.
-/

namespace SwitchDialects.Ios

/-- What a line does to a network, the block it stands in being resolved. -/
inductive Action where
  | declare (statement : DeviceStatement)
  | openVlan (id : Text)
  | openPort (id : Text)
  | inVlan (id : Text) (statement : VlanStatement)
  | inPort (id : Text) (statement : PortStatement)
deriving DecidableEq, Repr

def Action.apply (network : Network) : Action → Network
  | .declare statement => network.declare statement
  | .openVlan id => network.updateVlan id fun vlan => vlan
  | .openPort id =>
    { network with ports := network.ports.insertNew id { id, shutdown := .off } }
  | .inVlan id statement => network.modifyVlan id statement.apply
  | .inPort id statement => statement.applyTo network id

/-- The action of a header and the block that is open after it. -/
def Header.read (block : Block) : Header → Option Action × Block
  | .vlan id => (some (.openVlan id), .vlan id false)
  | .vlanGlobal => (none, block)
  | .interface (.vlan id) => (some (.openVlan id), .vlan id true)
  | .interface (.port id) => (some (.openPort id), .port id)
  | .interface .other | .close => (none, .none)

/-- The action of a line that is neither a header nor about the device. -/
def Block.member : Block → Text → Option Action
  | .none, _ => Option.none
  | .vlan id routed, line => (VlanStatement.ofLine? routed line).map (.inVlan id)
  | .port id, line => (PortStatement.ofLine? line).map (.inPort id)

/-- The action of a line and the block that is open after it. -/
def Block.read (block : Block) (line : Text) : Option Action × Block :=
  match deviceStatement? line with
  | .some statement => (some (.declare statement), block)
  | .none =>
    match Header.ofLine? line with
    | .some header => header.read block
    | .none => (block.member line, block)

def Block.actions : Block → List Text → List Action
  | _, [] => []
  | block, line :: rest => (block.read line).1.toList ++ (block.read line).2.actions rest

/-- The block that is open after some lines. -/
def Block.after (block : Block) (lines : List Text) : Block :=
  lines.foldl (fun b line => (b.read line).2) block

theorem Block.actions_append (block : Block) (lines more : List Text) :
    block.actions (lines ++ more) = block.actions lines ++ (block.after lines).actions more := by
  induction lines generalizing block with
  | nil => rfl
  | cons line lines ih =>
    rw [List.cons_append, Block.actions, ih, Block.actions, List.append_assoc]
    rfl

theorem Block.after_concat (block : Block) (lines : List Text) (line : Text) :
    block.after (lines ++ [line]) = ((block.after lines).read line).2 :=
  List.foldl_concat ..

theorem Block.actions_concat (block : Block) (lines : List Text) (line : Text) :
    block.actions (lines ++ [line]) =
      block.actions lines ++ ((block.after lines).read line).1.toList := by
  rw [Block.actions_append, Block.actions, Block.actions, List.append_nil]

/-- Whether a line is left to the block it stands in, as no header and not about the device. -/
def isBody (line : Text) : Bool := deviceStatement? line = none ∧ Header.ofLine? line = none

theorem Block.read_body {line : Text} (h : isBody line = true) (block : Block) :
    block.read line = (block.member line, block) := by
  obtain ⟨hdevice, hheader⟩ := of_decide_eq_true h
  rw [Block.read, hdevice, hheader]

/-- A statement about a port comes from a line that is left to its block. -/
theorem Block.read_eq_inPort {block : Block} {line port : Text} {statement : PortStatement} :
    (block.read line).1 = some (.inPort port statement) ↔
      block = .port port ∧ isBody line = true ∧ PortStatement.ofLine? line = some statement := by
  constructor
  · intro h
    by_cases hbody : isBody line = true
    · rw [Block.read_body hbody] at h
      cases block with
      | none => cases h
      | vlan id routed => simp [Block.member] at h
      | port id =>
        obtain ⟨read, hread, hsame⟩ := Option.map_eq_some_iff.mp h
        cases hsame
        exact ⟨rfl, hbody, hread⟩
    · rw [Block.read] at h
      cases hdevice : deviceStatement? line with
      | some declared => simp [hdevice] at h
      | none =>
        cases hheader : Header.ofLine? line with
        | some header =>
          rw [hdevice, hheader] at h
          rcases header with id | _ | (id | id | _) | _ <;> cases h
        | none => simp [isBody, hdevice, hheader] at hbody
  · rintro ⟨rfl, hbody, hread⟩
    rw [Block.read_body hbody, Block.member, hread]
    rfl

def actions (text : Text) : List Action := Block.none.actions (Text.significantLines text)

def replay (network : Network) (as : List Action) : Network := as.foldl Action.apply network

def start : Network := { source := .ios }

theorem replay_concat (network : Network) (as : List Action) (a : Action) :
    replay network (as ++ [a]) = a.apply (replay network as) := by
  simp [replay]

theorem State.openBlock_eq (state : State) (header : Header) :
    state.openBlock header =
      ⟨replay state.network (header.read state.block).1.toList, (header.read state.block).2⟩ := by
  rcases header with id | _ | (id | id | _) | _ <;> rfl

theorem State.member_eq (state : State) (line : Text) :
    state.member line = replay state.network (state.block.member line).toList := by
  obtain ⟨network, block⟩ := state
  cases block with
  | none => rfl
  | vlan id routed =>
    simp only [State.member, Block.member]
    cases VlanStatement.ofLine? routed line <;> rfl
  | port id =>
    simp only [State.member, Block.member]
    cases PortStatement.ofLine? line <;> rfl

/-- One step of the reader: the network is acted on, and the block depends on the line alone. -/
theorem State.step_eq (state : State) (line : Text) :
    state.step line =
      ⟨replay state.network (state.block.read line).1.toList, (state.block.read line).2⟩ := by
  rw [State.step, Block.read]
  cases deviceStatement? line with
  | some statement => rfl
  | none =>
    cases Header.ofLine? line with
    | some header => exact State.openBlock_eq state header
    | none => rw [State.member_eq]

theorem foldl_step_network (state : State) (lines : List Text) :
    (lines.foldl State.step state).network = replay state.network (state.block.actions lines) := by
  induction lines generalizing state with
  | nil => rfl
  | cons line rest ih =>
    rw [List.foldl_cons, ih, State.step_eq, Block.actions]
    simp [replay, List.foldl_append]

theorem foldl_step_block (state : State) (lines : List Text) :
    (lines.foldl State.step state).block = state.block.after lines := by
  induction lines generalizing state with
  | nil => rfl
  | cons line rest ih =>
    rw [List.foldl_cons, ih, State.step_eq]
    rfl

/-- A configuration describes what its actions do to an empty network. -/
theorem read_eq_replay (text : Text) : read text = replay start (actions text) :=
  foldl_step_network State.initial _

def Action.declared? : Action → Option DeviceStatement
  | .declare statement => some statement
  | _ => none

/-- What no change of a VLAN alters, a statement about a port leaves as the change of the port
did. -/
theorem PortStatement.applyTo_unchanged {β : Type} {f : Network → β}
    (h : ∀ network id change, f (Network.modifyVlan network id change) = f network)
    (statement : PortStatement) (network : Network) (id : Text) :
    f (statement.applyTo network id) = f (network.modifyPort id statement.apply) := by
  have huntagged (n : Network) : f (statement.untaggedVlans.foldl (joinUntagged id) n) = f n :=
    Replay.foldl_unchanged (f := f) (fun _ _ _ => by exact h _ _ _) n
  have htagged (n : Network) : f (statement.taggedVlans.foldl (joinTagged id) n) = f n :=
    Replay.foldl_unchanged (f := f) (fun _ _ _ => by exact h _ _ _) n
  rw [PortStatement.applyTo, htagged, huntagged]

theorem Action.device_apply (a : Action) (network : Network) :
    (a.apply network).device = network.device ++ a.declared?.toList := by
  cases a with
  | declare statement => rfl
  | inPort id statement =>
    have hsame := PortStatement.applyTo_unchanged (f := Network.device) (fun _ _ _ => rfl)
      statement network id
    exact hsame.trans (List.append_nil _).symm
  | _ => exact (List.append_nil _).symm

theorem device_replay (network : Network) (as : List Action) :
    (replay network as).device = network.device ++ as.filterMap Action.declared? := by
  rw [List.filterMap_eq_flatMap_toList]
  exact Replay.foldl_append (f := Network.device) (fun n a => a.device_apply n) network as

/-- A line says the same about the device in any block. -/
theorem Block.declared?_read (block : Block) (line : Text) :
    (block.read line).1.bind Action.declared? = deviceStatement? line := by
  rw [Block.read]
  cases deviceStatement? line with
  | some statement => rfl
  | none =>
    cases Header.ofLine? line with
    | some header => rcases header with id | _ | (id | id | _) | _ <;> rfl
    | none => cases block <;> simp [Block.member, Action.declared?]

theorem Block.filterMap_declared_actions (block : Block) (lines : List Text) :
    (block.actions lines).filterMap Action.declared? = lines.filterMap deviceStatement? := by
  induction lines generalizing block with
  | nil => rfl
  | cons line lines ih =>
    have hline := block.declared?_read line
    rw [Block.actions, List.filterMap_append, ih, List.filterMap_cons, ← hline]
    cases (block.read line).1 with
    | none => rfl
    | some a => cases hdeclared : a.declared? <;> simp [hdeclared]

/-- What is said about the device is read line by line, in order. -/
theorem device_read (text : Text) :
    (read text).device = (Text.significantLines text).filterMap deviceStatement? := by
  rw [read_eq_replay, device_replay, actions, Block.filterMap_declared_actions]
  rfl

theorem Action.source_apply (a : Action) (network : Network) :
    (a.apply network).source = network.source := by
  cases a with
  | inPort id statement =>
    exact PortStatement.applyTo_unchanged (f := Network.source) (fun _ _ _ => rfl)
      statement network id
  | _ => rfl

theorem source_replay (network : Network) (as : List Action) :
    (replay network as).source = network.source :=
  Replay.foldl_unchanged (f := Network.source) (fun n a _ => a.source_apply n) network

theorem source_read (text : Text) : (read text).source = .ios := by
  rw [read_eq_replay]
  exact source_replay start _

/-- The block that a block statement needs to be open. -/
def Action.Follows (earlier : List Action) : Action → Prop
  | .inVlan id _ => .openVlan id ∈ earlier
  | .inPort id _ => .openPort id ∈ earlier
  | _ => True

theorem Action.Follows.mono {earlier more : List Action} {a : Action} (h : a.Follows earlier)
    (hsub : earlier ⊆ more) : a.Follows more := by
  cases a with
  | inVlan id statement => exact hsub h
  | inPort id statement => exact hsub h
  | _ => trivial

/-- Every statement in a block comes after the header that opens it. -/
inductive Ordered : List Action → Prop where
  | nil : Ordered []
  | concat {as : List Action} {a : Action} (before : Ordered as) (follows : a.Follows as) :
      Ordered (as ++ [a])

theorem Ordered.follows_of_mem {as : List Action} (h : Ordered as) {a : Action} (ha : a ∈ as) :
    a.Follows as := by
  induction h with
  | nil => cases ha
  | concat before follows ih =>
    rcases List.mem_append.mp ha with ha | ha
    · exact (ih ha).mono (by simp)
    · obtain rfl := List.mem_singleton.mp ha
      exact follows.mono (by simp)

theorem Ordered.append {as bs : List Action} (ha : Ordered as) (hb : Ordered bs) :
    Ordered (as ++ bs) := by
  induction hb with
  | nil => simpa using ha
  | concat before follows ih =>
    rw [← List.append_assoc]
    exact ih.concat (follows.mono (List.subset_append_right ..))

/-- The block that is open has been opened by one of these actions. -/
def Block.OpenedBy (as : List Action) : Block → Prop
  | .none => True
  | .vlan id _ => .openVlan id ∈ as
  | .port id => .openPort id ∈ as

theorem Block.OpenedBy.mono {as more : List Action} {block : Block} (h : block.OpenedBy as)
    (hsub : as ⊆ more) : block.OpenedBy more := by
  cases block with
  | none => trivial
  | vlan id routed => exact hsub h
  | port id => exact hsub h

/-- What a line does belongs to the block that is open, and leaves open a block that was opened. -/
theorem Block.read_opened {as : List Action} {block : Block} (h : block.OpenedBy as)
    (line : Text) :
    (∀ a ∈ (block.read line).1, a.Follows as) ∧
      (block.read line).2.OpenedBy (as ++ (block.read line).1.toList) := by
  rw [Block.read]
  cases deviceStatement? line with
  | some statement =>
    constructor
    · intro a ha
      obtain rfl := Option.mem_some_iff.mp ha
      trivial
    · exact h.mono (by simp)
  | none =>
    cases Header.ofLine? line with
    | some header =>
      rcases header with id | _ | (id | id | _) | _
      case vlanGlobal => exact ⟨by simp [Header.read], by simpa [Header.read] using h⟩
      all_goals simp [Header.read, Action.Follows, Block.OpenedBy]
    | none =>
      refine ⟨?_, h.mono (by simp)⟩
      cases block with
      | none => simp [Block.member]
      | vlan id routed =>
        intro a ha
        obtain ⟨statement, _, rfl⟩ := Option.map_eq_some_iff.mp ha
        exact h
      | port id =>
        intro a ha
        obtain ⟨statement, _, rfl⟩ := Option.map_eq_some_iff.mp ha
        exact h

theorem Ordered.block_actions {as : List Action} (h : Ordered as) {block : Block}
    (hopen : block.OpenedBy as) (lines : List Text) : Ordered (as ++ block.actions lines) := by
  induction lines generalizing as block with
  | nil => simpa [Block.actions] using h
  | cons line rest ih =>
    obtain ⟨hfollows, hnext⟩ := Block.read_opened hopen line
    rw [Block.actions, ← List.append_assoc]
    refine ih ?_ hnext
    cases hread : (block.read line).1 with
    | none => simpa using h
    | some a => exact h.concat (hfollows a hread)

theorem Block.after_opened {as : List Action} {block : Block} (h : block.OpenedBy as)
    (lines : List Text) : (block.after lines).OpenedBy (as ++ block.actions lines) := by
  induction lines using List.reverseRecOn with
  | nil => exact h.mono (by simp)
  | append_singleton lines line ih =>
    rw [Block.after_concat, Block.actions_concat, ← List.append_assoc]
    exact (Block.read_opened ih line).2

theorem ordered_actions (text : Text) : Ordered (actions text) :=
  Ordered.nil.block_actions (show Block.none.OpenedBy [] from trivial) _

/-- Every action comes from a line of the text. -/
theorem Block.exists_line_of_mem {block : Block} {lines : List Text} {a : Action}
    (h : a ∈ block.actions lines) : ∃ b line, line ∈ lines ∧ (Block.read b line).1 = some a := by
  induction lines generalizing block with
  | nil => simp [Block.actions] at h
  | cons line rest ih =>
    rw [Block.actions, List.mem_append, Option.mem_toList] at h
    rcases h with h | h
    · exact ⟨block, line, by simp, h⟩
    · obtain ⟨b, l, hl, hb⟩ := ih h
      exact ⟨b, l, by simp [hl], hb⟩

end SwitchDialects.Ios
