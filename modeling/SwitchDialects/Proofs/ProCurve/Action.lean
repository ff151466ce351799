import Mathlib.Data.List.Induction
import SwitchDialects.ProCurve.Reader
import SwitchDialects.Proofs.OrderedMap
import SwitchDialects.Proofs.Replay
import SwitchDialects.Proofs.Text.Lines

/-!
# Actions of a ProCurve configuration

As for IOS, the open block depends on the lines alone: a text becomes a list of actions and the
network is what they do in turn. Here an action creates every record that it names, so a VLAN or a
port that has no record yet may be taken for a new one, and the effect of an action on a record is
the same whether the record is there or not.
-/

namespace SwitchDialects.ProCurve

/-- What a line does to a network, the block it stands in being resolved. -/
inductive Action where
  | declare (statement : DeviceStatement)
  | openVlan (id : Text)
  | openPort (id : Text)
  | inVlan (id : Text) (statement : VlanStatement)
  | inPort (id : Text) (statement : PortStatement)
deriving DecidableEq, Repr

def Action.apply (network : Network) : Action → Network
  | .declare statement => network.declare statement
  | .openVlan id => network.updateVlan id fun vlan => vlan
  | .openPort id => network.updatePort id fun port => port
  | .inVlan id statement => statement.apply network id
  | .inPort id statement => network.updatePort id statement.apply

def Block.readOther (block : Block) (line : Text) : Option Action × Block :=
  match hostname? line with
  | .some name => (some (.declare (.hostname name)), block)
  | .none =>
    if endsPort line then (.none, .none)
    else
      match block, PortStatement.ofLine? line with
      | .port id, .some statement => (some (.inPort id statement), block)
      | _, _ => (.none, block)

def Block.read (block : Block) (line : Text) : Option Action × Block :=
  match location? line with
  | .some text => (some (.declare (.location text)), block)
  | .none =>
    match vlanHeader? line with
    | .some id => (some (.openVlan id), .vlan id)
    | .none =>
      match block with
      | .vlan id =>
        if endsVlan line then (.none, .none)
        else ((VlanStatement.ofLine? line).map (.inVlan id), block)
      | _ =>
        match portHeader? line with
        | .some id => (some (.openPort id), .port id)
        | .none => block.readOther line

/-- The actions of the lines from an open block on, and the block that is open in the end. -/
def Block.readAll : Block → List Text → List Action × Block
  | block, [] => ([], block)
  | block, line :: rest =>
    ((block.read line).1.toList ++ ((block.read line).2.readAll rest).1,
      ((block.read line).2.readAll rest).2)

def actions (text : Text) : List Action := (Block.none.readAll (Text.significantLines text)).1

def replay (network : Network) (as : List Action) : Network := as.foldl Action.apply network

def start : Network := { source := .proCurve }

theorem replay_append (network : Network) (as bs : List Action) :
    replay network (as ++ bs) = replay (replay network as) bs :=
  List.foldl_append

theorem Block.readAll_append (block : Block) (lines more : List Text) :
    block.readAll (lines ++ more) =
      ((block.readAll lines).1 ++ ((block.readAll lines).2.readAll more).1,
        ((block.readAll lines).2.readAll more).2) := by
  induction lines generalizing block with
  | nil => rfl
  | cons line rest ih => simp [Block.readAll, ih]

/-- What a line can do in an open block, and the block that is open after it. -/
inductive Block.Reads (block : Block) (line : Text) : Option Action → Block → Prop where
  | location {text : Text} (h : location? line = .some text) :
    Reads block line (some (.declare (.location text))) block
  | hostname {name : Text} (h : hostname? line = .some name) :
    Reads block line (some (.declare (.hostname name))) block
  | openVlan {id : Text} (h : vlanHeader? line = .some id) :
    Reads block line (some (.openVlan id)) (.vlan id)
  | openPort {id : Text} (h : portHeader? line = .some id) :
    Reads block line (some (.openPort id)) (.port id)
  | inVlan {id : Text} {statement : VlanStatement} (hblock : block = .vlan id)
    (h : VlanStatement.ofLine? line = .some statement) :
    Reads block line (some (.inVlan id statement)) block
  | inPort {id : Text} {statement : PortStatement} (hblock : block = .port id)
    (h : PortStatement.ofLine? line = .some statement) :
    Reads block line (some (.inPort id statement)) block
  | ends : Reads block line .none .none
  | ignored : Reads block line .none block

theorem Block.reads_readOther (block : Block) (line : Text) :
    block.Reads line (block.readOther line).1 (block.readOther line).2 := by
  unfold Block.readOther
  cases hhostname : hostname? line with
  | some name => exact .hostname hhostname
  | none =>
    simp only
    split
    · exact .ends
    · split
      case h_1 id statement hstatement => exact .inPort rfl hstatement
      case h_2 => exact .ignored

/-- There is nothing else that a line can do. -/
theorem Block.reads (block : Block) (line : Text) :
    block.Reads line (block.read line).1 (block.read line).2 := by
  unfold Block.read
  cases hlocation : location? line with
  | some text => exact .location hlocation
  | none =>
    cases hvlan : vlanHeader? line with
    | some id => exact .openVlan hvlan
    | none =>
      cases block with
      | vlan id =>
        simp only
        split
        · exact .ends
        · cases hstatement : VlanStatement.ofLine? line with
          | some statement => exact .inVlan rfl hstatement
          | none => exact .ignored
      | _ =>
        cases hport : portHeader? line with
        | some id => exact .openPort hport
        | none => exact Block.reads_readOther _ line

theorem State.vlanLine_eq (state : State) (id line : Text) :
    state.vlanLine id line =
      if endsVlan line then ⟨state.network, .none⟩
      else ⟨replay state.network ((VlanStatement.ofLine? line).map (.inVlan id)).toList,
        state.block⟩ := by
  rw [State.vlanLine]
  split
  · rfl
  · cases VlanStatement.ofLine? line <;> rfl

theorem State.portLine_eq (state : State) (line : Text) :
    state.portLine line =
      ⟨replay state.network (state.block.readOther line).1.toList,
        (state.block.readOther line).2⟩ := by
  obtain ⟨network, block⟩ := state
  unfold State.portLine Block.readOther
  cases hostname? line with
  | some name => rfl
  | none =>
    simp only
    split
    · rfl
    · cases block with
      | port id => cases PortStatement.ofLine? line <;> rfl
      | _ => rfl

/-- One step of the reader: the network is acted on, and the block depends on the line alone. -/
theorem State.step_eq (state : State) (line : Text) :
    state.step line =
      ⟨replay state.network (state.block.read line).1.toList, (state.block.read line).2⟩ := by
  obtain ⟨network, block⟩ := state
  unfold State.step Block.read
  cases location? line with
  | some text => rfl
  | none =>
    cases vlanHeader? line with
    | some id => rfl
    | none =>
      cases block with
      | vlan id =>
        simp only [State.vlanLine_eq]
        split <;> rfl
      | none =>
        cases portHeader? line with
        | some id => rfl
        | none => exact State.portLine_eq _ line
      | port id =>
        cases portHeader? line with
        | some id => rfl
        | none => exact State.portLine_eq _ line

theorem foldl_step_network (state : State) (lines : List Text) :
    (lines.foldl State.step state).network =
      replay state.network (state.block.readAll lines).1 := by
  induction lines generalizing state with
  | nil => rfl
  | cons line rest ih =>
    rw [List.foldl_cons, ih, State.step_eq, Block.readAll, replay_append]

theorem foldl_step_block (state : State) (lines : List Text) :
    (lines.foldl State.step state).block = (state.block.readAll lines).2 := by
  induction lines generalizing state with
  | nil => rfl
  | cons line rest ih => rw [List.foldl_cons, ih, State.step_eq, Block.readAll]

/-- A configuration describes what its actions do to an empty network. -/
theorem read_eq_replay (text : Text) : read text = replay start (actions text) :=
  foldl_step_network State.initial _

/-- Every action comes from a line of the text. -/
theorem Block.exists_line_of_mem {block : Block} {lines : List Text} {a : Action}
    (h : a ∈ (block.readAll lines).1) :
    ∃ b line, line ∈ lines ∧ (Block.read b line).1 = some a := by
  induction lines generalizing block with
  | nil => cases h
  | cons line rest ih =>
    rw [Block.readAll, List.mem_append, Option.mem_toList] at h
    rcases h with h | h
    · exact ⟨block, line, by simp, h⟩
    · obtain ⟨b, l, hl, hb⟩ := ih h
      exact ⟨b, l, by simp [hl], hb⟩

/-- What holds of the open block and carries over from line to line shows in every action. -/
theorem Block.readAll_keeps {P : Block → Prop} {Q : Action → Prop} {lines : List Text}
    (step : ∀ block line action next, line ∈ lines → Block.Reads block line action next → P block →
      (∀ a ∈ action, Q a) ∧ P next) {block : Block} (h : P block) :
    ∀ a ∈ (block.readAll lines).1, Q a := by
  induction lines generalizing block with
  | nil => simp [Block.readAll]
  | cons line lines ih =>
    obtain ⟨hread, hnext⟩ := step block line _ _ (by simp) (block.reads line) h
    intro a ha
    rw [Block.readAll, List.mem_append, Option.mem_toList] at ha
    rcases ha with ha | ha
    · exact hread a ha
    · exact ih (fun b l action next hl => step b l action next (by simp [hl])) hnext a ha

/-- The record of a VLAN, or a new one. -/
def vlanAt (network : Network) (key : Text) : Vlan := (network.vlans.get? key).getD { id := key }

/-- The record of a port, or a new one. -/
def portAt (network : Network) (key : Text) : Port := (network.ports.get? key).getD { id := key }

def VlanStatement.onVlan : VlanStatement → Vlan → Vlan
  | .tagged ports, vlan => { vlan with tagged := vlan.tagged.insertAll ports }
  | .untagged ports, vlan => { vlan with untagged := vlan.untagged.insertAll ports }
  | .name text, vlan => { vlan with name := some text }
  | .address text, vlan => { vlan with address := some text }
  | .voice, vlan => { vlan with voice := true }

/-- What it does to a port to be listed as an untagged member of a VLAN. -/
def takeUntagged (vlan : Text) (port : Port) : Port :=
  { port with accessVlan := some vlan, nativeVlan := port.nativeVlan.or (some vlan) }

/-- What a statement in the block of a VLAN does to the record of a port. -/
def VlanStatement.onPort (vlan key : Text) : VlanStatement → Port → Port
  | .tagged ports => if ports.contains key then (Port.addTrunkVlan · vlan) else fun port => port
  | .untagged ports => if ports.contains key then takeUntagged vlan else fun port => port
  | _ => fun port => port

/-- There are two things that it can do. -/
theorem VlanStatement.onPort_cases (statement : VlanStatement) (vlan key : Text) (port : Port) :
    statement.onPort vlan key port = port ∨
      statement.onPort vlan key port = port.addTrunkVlan vlan ∨
      statement.onPort vlan key port = takeUntagged vlan port := by
  cases statement with
  | tagged ports =>
    rw [onPort]
    split
    · exact Or.inr (Or.inl rfl)
    · exact Or.inl rfl
  | untagged ports =>
    rw [onPort]
    split
    · exact Or.inr (Or.inr rfl)
    · exact Or.inl rfl
  | _ => exact Or.inl rfl

def Action.onVlan (key : Text) : Action → Vlan → Vlan
  | .inVlan id statement => if id = key then statement.onVlan else fun vlan => vlan
  | _ => fun vlan => vlan

def Action.onPort (key : Text) : Action → Port → Port
  | .inVlan id statement => statement.onPort id key
  | .inPort id statement => if id = key then statement.apply else fun port => port
  | _ => fun port => port

/-- The VLANs that an action names, as often as it asks for their records. -/
def Action.vlans : Action → List Text
  | .openVlan id => [id]
  | .inVlan id (.tagged ports) | .inVlan id (.untagged ports) => ports.map fun _ => id
  | .inVlan id _ => [id]
  | _ => []

def Action.ports : Action → List Text
  | .openPort id | .inPort id _ => [id]
  | .inVlan _ (.tagged ports) | .inVlan _ (.untagged ports) => ports
  | _ => []

theorem vlanAt_updateVlan (network : Network) (id : Text) (change : Vlan → Vlan) (key : Text) :
    vlanAt (network.updateVlan id change) key =
      if key = id then change (vlanAt network key) else vlanAt network key :=
  OrderedMap.getD_upsert _ _ _ _ _ _ fun h => by rw [h]

theorem portAt_updatePort (network : Network) (id : Text) (change : Port → Port) (key : Text) :
    portAt (network.updatePort id change) key =
      if key = id then change (portAt network key) else portAt network key :=
  OrderedMap.getD_upsert _ _ _ _ _ _ fun h => by rw [h]

@[simp] theorem vlanAt_updatePort (network : Network) (id : Text) (change : Port → Port)
    (key : Text) : vlanAt (network.updatePort id change) key = vlanAt network key := rfl

theorem vlanAt_foldl_joinTagged (vlan key : Text) (network : Network) (ports : List Text) :
    vlanAt (ports.foldl (joinTagged vlan) network) key =
      if vlan = key then (VlanStatement.tagged ports).onVlan (vlanAt network key)
      else vlanAt network key := by
  induction ports generalizing network with
  | nil => by_cases h : vlan = key <;> simp [h, VlanStatement.onVlan, OrderedSet.insertAll]
  | cons port ports ih =>
    rw [List.foldl_cons, ih, joinTagged, vlanAt_updateVlan, vlanAt_updatePort]
    by_cases h : vlan = key
    · simp [h, VlanStatement.onVlan, OrderedSet.insertAll, Vlan.addTagged]
    · simp [h, Ne.symm h]

theorem vlanAt_foldl_joinUntagged (vlan key : Text) (network : Network) (ports : List Text) :
    vlanAt (ports.foldl (joinUntagged vlan) network) key =
      if vlan = key then (VlanStatement.untagged ports).onVlan (vlanAt network key)
      else vlanAt network key := by
  induction ports generalizing network with
  | nil => by_cases h : vlan = key <;> simp [h, VlanStatement.onVlan, OrderedSet.insertAll]
  | cons port ports ih =>
    rw [List.foldl_cons, ih, joinUntagged, vlanAt_updateVlan, vlanAt_updatePort]
    by_cases h : vlan = key
    · simp [h, VlanStatement.onVlan, OrderedSet.insertAll, Vlan.addUntagged]
    · simp [h, Ne.symm h]

theorem addTrunkVlan_again (port : Port) (vlan : Text) :
    (port.addTrunkVlan vlan).addTrunkVlan vlan = port.addTrunkVlan vlan := by
  have : appendNew (appendNew port.trunkVlans vlan) vlan = appendNew port.trunkVlans vlan :=
    appendNew_of_mem (mem_appendNew.mpr (Or.inr rfl))
  simp [Port.addTrunkVlan, this]

theorem takeUntagged_again (vlan : Text) (port : Port) :
    takeUntagged vlan (takeUntagged vlan port) = takeUntagged vlan port := by
  cases h : port.nativeVlan <;> simp [takeUntagged, h]

/-- A list that names a port twice does no more than one that names it once. -/
theorem portAt_foldl {join : Network → Text → Network} (change : Port → Port)
    (again : ∀ port, change (change port) = change port)
    (hjoin : ∀ network port key, portAt (join network port) key =
      if key = port then change (portAt network key) else portAt network key)
    (network : Network) (ports : List Text) (key : Text) :
    portAt (ports.foldl join network) key =
      if ports.contains key then change (portAt network key) else portAt network key := by
  induction ports generalizing network with
  | nil => simp
  | cons port ports ih =>
    rw [List.foldl_cons, ih, hjoin]
    by_cases hp : key = port
    · by_cases hm : key ∈ ports <;> simp [hp, again]
    · simp [hp]

theorem portAt_foldl_joinTagged (vlan key : Text) (network : Network) (ports : List Text) :
    portAt (ports.foldl (joinTagged vlan) network) key =
      (VlanStatement.tagged ports).onPort vlan key (portAt network key) := by
  have hjoin : ∀ n port k, portAt (joinTagged vlan n port) k =
      if k = port then (portAt n k).addTrunkVlan vlan else portAt n k :=
    fun n port k => portAt_updatePort n port (Port.addTrunkVlan · vlan) k
  rw [portAt_foldl (Port.addTrunkVlan · vlan)
    (fun port => addTrunkVlan_again port vlan) hjoin, VlanStatement.onPort]
  split <;> rfl

theorem portAt_foldl_joinUntagged (vlan key : Text) (network : Network) (ports : List Text) :
    portAt (ports.foldl (joinUntagged vlan) network) key =
      (VlanStatement.untagged ports).onPort vlan key (portAt network key) := by
  have hjoin : ∀ n port k, portAt (joinUntagged vlan n port) k =
      if k = port then takeUntagged vlan (portAt n k) else portAt n k :=
    fun n port k => portAt_updatePort n port (takeUntagged vlan) k
  rw [portAt_foldl (takeUntagged vlan) (takeUntagged_again vlan) hjoin, VlanStatement.onPort]
  split <;> rfl

/-- The record of a VLAN after an action. -/
theorem Action.vlanAt_apply (a : Action) (network : Network) (key : Text) :
    vlanAt (a.apply network) key = a.onVlan key (vlanAt network key) := by
  cases a with
  | declare statement => rfl
  | openVlan id => exact (vlanAt_updateVlan _ _ _ _).trans (by simp [Action.onVlan])
  | openPort id => rfl
  | inPort id statement => rfl
  | inVlan id statement =>
    rw [Action.onVlan, Action.apply]
    cases statement with
    | tagged ports =>
      rw [VlanStatement.apply, vlanAt_foldl_joinTagged]
      split <;> rfl
    | untagged ports =>
      rw [VlanStatement.apply, vlanAt_foldl_joinUntagged]
      split <;> rfl
    | _ =>
      rw [VlanStatement.apply, vlanAt_updateVlan]
      by_cases h : id = key
      · simp [h, VlanStatement.onVlan]
      · simp [h, Ne.symm h]

/-- The record of a port after an action. -/
theorem Action.portAt_apply (a : Action) (network : Network) (key : Text) :
    portAt (a.apply network) key = a.onPort key (portAt network key) := by
  cases a with
  | declare statement => rfl
  | openVlan id => rfl
  | openPort id => exact (portAt_updatePort _ _ _ _).trans (by simp [Action.onPort])
  | inPort id statement =>
    rw [Action.apply, portAt_updatePort, Action.onPort]
    by_cases h : id = key
    · simp [h]
    · simp [h, Ne.symm h]
  | inVlan id statement =>
    cases statement with
    | tagged ports => exact portAt_foldl_joinTagged id key network ports
    | untagged ports => exact portAt_foldl_joinUntagged id key network ports
    | _ => rfl

theorem vlanAt_replay (network : Network) (as : List Action) (key : Text) :
    vlanAt (replay network as) key = as.foldl (fun r a => a.onVlan key r) (vlanAt network key) := by
  induction as generalizing network with
  | nil => rfl
  | cons a as ih => exact (ih (a.apply network)).trans (by rw [Action.vlanAt_apply]; rfl)

theorem portAt_replay (network : Network) (as : List Action) (key : Text) :
    portAt (replay network as) key = as.foldl (fun r a => a.onPort key r) (portAt network key) := by
  induction as generalizing network with
  | nil => rfl
  | cons a as ih => exact (ih (a.apply network)).trans (by rw [Action.portAt_apply]; rfl)

theorem vlans_keys_foldl {join : Network → Text → Network} {vlan : Text}
    (hjoin : ∀ network port, (join network port).vlans.keys = appendNew network.vlans.keys vlan)
    (network : Network) (ports : List Text) :
    (ports.foldl join network).vlans.keys =
      (ports.map fun _ => vlan).foldl appendNew network.vlans.keys := by
  induction ports generalizing network with
  | nil => rfl
  | cons port ports ih => rw [List.foldl_cons, ih, hjoin]; rfl

theorem ports_keys_foldl {join : Network → Text → Network}
    (hjoin : ∀ network port, (join network port).ports.keys = appendNew network.ports.keys port)
    (network : Network) (ports : List Text) :
    (ports.foldl join network).ports.keys = ports.foldl appendNew network.ports.keys := by
  induction ports generalizing network with
  | nil => rfl
  | cons port ports ih => rw [List.foldl_cons, ih, hjoin]; rfl

/-- An action creates the records of the VLANs it names. -/
theorem Action.vlans_keys_apply (a : Action) (network : Network) :
    (a.apply network).vlans.keys = a.vlans.foldl appendNew network.vlans.keys := by
  have hupdate (id : Text) (change : Vlan → Vlan) :
      (network.updateVlan id change).vlans.keys = appendNew network.vlans.keys id :=
    OrderedMap.keys_upsert _ _ _ _
  cases a with
  | declare statement => rfl
  | openVlan id => exact hupdate id _
  | openPort id => rfl
  | inPort id statement => rfl
  | inVlan id statement =>
    cases statement with
    | tagged ports => exact vlans_keys_foldl (fun _ _ => OrderedMap.keys_upsert _ _ _ _) network ports
    | untagged ports =>
      exact vlans_keys_foldl (fun _ _ => OrderedMap.keys_upsert _ _ _ _) network ports
    | _ => exact hupdate id _

/-- An action creates the records of the ports it names. -/
theorem Action.ports_keys_apply (a : Action) (network : Network) :
    (a.apply network).ports.keys = a.ports.foldl appendNew network.ports.keys := by
  have hupdate (id : Text) (change : Port → Port) :
      (network.updatePort id change).ports.keys = appendNew network.ports.keys id :=
    OrderedMap.keys_upsert _ _ _ _
  cases a with
  | declare statement => rfl
  | openVlan id => rfl
  | openPort id => exact hupdate id _
  | inPort id statement => exact hupdate id _
  | inVlan id statement =>
    cases statement with
    | tagged ports => exact ports_keys_foldl (fun _ _ => OrderedMap.keys_upsert _ _ _ _) network ports
    | untagged ports =>
      exact ports_keys_foldl (fun _ _ => OrderedMap.keys_upsert _ _ _ _) network ports
    | _ => rfl

theorem vlans_keys_replay (network : Network) (as : List Action) :
    (replay network as).vlans.keys =
      (as.flatMap Action.vlans).foldl appendNew network.vlans.keys := by
  induction as generalizing network with
  | nil => rfl
  | cons a as ih =>
    rw [List.flatMap_cons, List.foldl_append, ← Action.vlans_keys_apply]
    exact ih _

theorem ports_keys_replay (network : Network) (as : List Action) :
    (replay network as).ports.keys =
      (as.flatMap Action.ports).foldl appendNew network.ports.keys := by
  induction as generalizing network with
  | nil => rfl
  | cons a as ih =>
    rw [List.flatMap_cons, List.foldl_append, ← Action.ports_keys_apply]
    exact ih _

def Action.declared? : Action → Option DeviceStatement
  | .declare statement => some statement
  | _ => none

/-- What no change of a record alters, a statement in the block of a VLAN does not alter. -/
theorem VlanStatement.apply_unchanged {β : Type} {f : Network → β}
    (hvlan : ∀ network id change, f (Network.updateVlan network id change) = f network)
    (hport : ∀ network id change, f (Network.updatePort network id change) = f network)
    (statement : VlanStatement) (network : Network) (vlan : Text) :
    f (statement.apply network vlan) = f network := by
  cases statement with
  | tagged ports =>
    refine Replay.foldl_unchanged (f := f) (fun n port _ => ?_) network
    exact (hvlan _ _ _).trans (hport n port _)
  | untagged ports =>
    refine Replay.foldl_unchanged (f := f) (fun n port _ => ?_) network
    exact (hvlan _ _ _).trans (hport n port _)
  | _ => exact hvlan network vlan _

theorem Action.device_apply (a : Action) (network : Network) :
    (a.apply network).device = network.device ++ a.declared?.toList := by
  cases a with
  | declare statement => rfl
  | inVlan id statement =>
    have hsame := statement.apply_unchanged (f := Network.device) (fun _ _ _ => rfl)
      (fun _ _ _ => rfl) network id
    exact hsame.trans (List.append_nil _).symm
  | _ => exact (List.append_nil _).symm

theorem device_replay (network : Network) (as : List Action) :
    (replay network as).device = network.device ++ as.filterMap Action.declared? := by
  rw [List.filterMap_eq_flatMap_toList]
  exact Replay.foldl_append (f := Network.device) (fun n a => a.device_apply n) network as

theorem Action.source_apply (a : Action) (network : Network) :
    (a.apply network).source = network.source := by
  cases a with
  | inVlan id statement =>
    exact statement.apply_unchanged (f := Network.source) (fun _ _ _ => rfl) (fun _ _ _ => rfl)
      network id
  | _ => rfl

theorem source_replay (network : Network) (as : List Action) :
    (replay network as).source = network.source :=
  Replay.foldl_unchanged (f := Network.source) (fun n a _ => a.source_apply n) network

theorem vlanAt_of_get? {network : Network} {key : Text} {vlan : Vlan}
    (h : network.vlans.get? key = some vlan) : vlanAt network key = vlan := by
  rw [vlanAt, h]
  rfl

theorem portAt_of_get? {network : Network} {key : Text} {port : Port}
    (h : network.ports.get? key = some port) : portAt network key = port := by
  rw [portAt, h]
  rfl

theorem get?_vlans_of_mem {network : Network} {key : Text} (h : key ∈ network.vlans.keys) :
    network.vlans.get? key = some (vlanAt network key) := by
  obtain ⟨vlan, hvlan⟩ := OrderedMap.exists_get?_of_mem h
  rw [hvlan, vlanAt_of_get? hvlan]

theorem get?_ports_of_mem {network : Network} {key : Text} (h : key ∈ network.ports.keys) :
    network.ports.get? key = some (portAt network key) := by
  obtain ⟨port, hport⟩ := OrderedMap.exists_get?_of_mem h
  rw [hport, portAt_of_get? hport]

/-- Networks with the same record of a VLAN, or both with none. -/
theorem get?_vlans_eq {a b : Network} {key : Text}
    (hkey : key ∈ a.vlans.keys ↔ key ∈ b.vlans.keys) (hat : vlanAt a key = vlanAt b key) :
    a.vlans.get? key = b.vlans.get? key := by
  by_cases h : key ∈ a.vlans.keys
  · rw [get?_vlans_of_mem h, get?_vlans_of_mem (hkey.mp h), hat]
  · rw [OrderedMap.get?_eq_none_iff.mpr h,
      OrderedMap.get?_eq_none_iff.mpr fun hother => h (hkey.mpr hother)]

theorem get?_ports_eq {a b : Network} {key : Text}
    (hkey : key ∈ a.ports.keys ↔ key ∈ b.ports.keys) (hat : portAt a key = portAt b key) :
    a.ports.get? key = b.ports.get? key := by
  by_cases h : key ∈ a.ports.keys
  · rw [get?_ports_of_mem h, get?_ports_of_mem (hkey.mp h), hat]
  · rw [OrderedMap.get?_eq_none_iff.mpr h,
      OrderedMap.get?_eq_none_iff.mpr fun hother => h (hkey.mpr hother)]

end SwitchDialects.ProCurve
