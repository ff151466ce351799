import SwitchDialects.Proofs.ProCurve.Consistency
import SwitchDialects.Proofs.ProCurve.Reordering

/-!
# What a statement of ProCurve may change

A statement in the block of a port changes the settings of this port and nothing else. One in the
block of a VLAN changes the record of the VLAN and the VLANs of the ports that it lists, which are
created behind the others if they are new. So of a list of ports it matters for one port only
whether the port is among them.
-/

namespace SwitchDialects

namespace Port

/-- A port with all taken out that is said in its own block. -/
def withoutSettings (port : Port) : Port :=
  { port with
    description := none, power := .unspecified, shutdown := .unspecified, trustsMarking := false,
    speed := none, voiceVlan := none, kept := [] }

end Port

namespace ProCurve

open Text

/-- The states that the reader comes to. -/
inductive State.Reached : State → Prop
  | initial : Reached .initial
  | step {state : State} (h : Reached state) (line : Text) : Reached (state.step line)

/-- Every text leads to such a state. -/
theorem reached_run (text : Text) : (run text).Reached := by
  have hlines (lines : List Text) {state : State} (h : state.Reached) :
      (lines.foldl State.step state).Reached := by
    induction lines generalizing state with
    | nil => exact h
    | cons line lines ih => exact ih (h.step line)
  exact hlines _ .initial

def Block.RecordedIn (network : Network) : Block → Prop
  | .none => True
  | .vlan id => id ∈ network.vlans.keys
  | .port id => id ∈ network.ports.keys

/-- No action takes a record away. -/
theorem Block.RecordedIn.replay {network : Network} {block : Block} (h : block.RecordedIn network)
    (as : List Action) : block.RecordedIn (ProCurve.replay network as) := by
  cases block with
  | none => trivial
  | vlan id =>
    rw [RecordedIn, vlans_keys_replay]
    exact mem_foldl_appendNew.mpr (.inl h)
  | port id =>
    rw [RecordedIn, ports_keys_replay]
    exact mem_foldl_appendNew.mpr (.inl h)

/-- A line that opens a block creates its record. -/
theorem Block.Reads.recordedIn {network : Network} {block next : Block} {line : Text}
    {action : Option Action} (hreads : block.Reads line action next)
    (h : block.RecordedIn network) : next.RecordedIn (ProCurve.replay network action.toList) := by
  -- any line but a header keeps the open block or closes it
  cases hreads with
  | openVlan =>
    rw [RecordedIn, vlans_keys_replay]
    exact mem_foldl_appendNew.mpr (.inr (List.mem_singleton.mpr rfl))
  | openPort =>
    rw [RecordedIn, ports_keys_replay]
    exact mem_foldl_appendNew.mpr (.inr (List.mem_singleton.mpr rfl))
  | ends => trivial
  | _ => exact h.replay _

/-- The open block has its record in every state that is reached. -/
theorem State.Reached.recorded {state : State} (h : state.Reached) :
    state.block.RecordedIn state.network := by
  induction h with
  | initial => trivial
  | @step state _ line ih =>
    rw [State.step_eq]
    exact (state.block.reads line).recordedIn ih

/-- A line that is left to the open block does what its statement does and leaves the block open. -/
theorem State.step_owned {state : State} {line : Text} (h : state.block.owns line = true) :
    state.step line =
      ⟨replay state.network (state.block.statement? line).toList, state.block⟩ := by
  rw [State.step_eq, Block.read_owned h]

/-- What a line in the block of a port leaves as it is. -/
structure PortFrame (id : Text) (before after : Network) : Prop where
  source : after.source = before.source
  device : after.device = before.device
  vlans : after.vlans = before.vlans
  portIds : after.ports.keys = before.ports.keys
  others : ∀ port, port ≠ id → after.ports.get? port = before.ports.get? port
  record : (after.ports.get? id).map Port.withoutSettings =
    (before.ports.get? id).map Port.withoutSettings

theorem PortFrame.refl (id : Text) (network : Network) : PortFrame id network network :=
  ⟨rfl, rfl, rfl, rfl, fun _ _ => rfl, rfl⟩

theorem PortStatement.withoutSettings_apply (statement : PortStatement) (port : Port) :
    (statement.apply port).withoutSettings = port.withoutSettings := by
  cases statement <;> rfl

theorem PortStatement.portFrame {network : Network} {id : Text} (hid : id ∈ network.ports.keys)
    (statement : PortStatement) : PortFrame id network (network.updatePort id statement.apply) where
  source := rfl
  device := rfl
  vlans := rfl
  portIds := (OrderedMap.keys_upsert _ _ _ _).trans (appendNew_of_mem hid)
  others port hport := (OrderedMap.get?_upsert _ _ _ _ _).trans (if_neg hport)
  record := by
    obtain ⟨port, hport⟩ := OrderedMap.exists_get?_of_mem hid
    have hafter : (network.updatePort id statement.apply).ports.get? id =
        some (statement.apply port) := by
      rw [Network.updatePort, OrderedMap.get?_upsert, if_pos rfl, hport]
      rfl
    rw [hafter, hport, Option.map_some, Option.map_some, statement.withoutSettings_apply]

theorem State.Reached.portFrame {state : State} (h : state.Reached) {id line : Text}
    (hblock : state.block = .port id) (howns : (Block.port id).owns line = true) :
    (state.step line).block = .port id ∧ PortFrame id state.network (state.step line).network := by
  have hrecorded := h.recorded
  rw [hblock] at hrecorded
  rw [State.step_owned (hblock ▸ howns), hblock]
  refine ⟨rfl, ?_⟩
  cases hstatement : PortStatement.ofLine? line with
  | none =>
    simp only [Block.statement?, hstatement]
    exact .refl id state.network
  | some statement =>
    simp only [Block.statement?, hstatement]
    exact statement.portFrame hrecorded

def VlanStatement.listed : VlanStatement → List Text
  | .tagged ports | .untagged ports => ports
  | _ => []

def listedOn (line : Text) : List Text :=
  ((VlanStatement.ofLine? line).map VlanStatement.listed).getD []

/-- What a line in the block of a VLAN leaves as it is, given the ports that it lists. -/
structure VlanFrame (id : Text) (listed : List Text) (before after : Network) : Prop where
  source : after.source = before.source
  device : after.device = before.device
  vlanIds : after.vlans.keys = before.vlans.keys
  otherVlans : ∀ vlan, vlan ≠ id → after.vlans.get? vlan = before.vlans.get? vlan
  /-- New ports are behind the others. -/
  portIds : after.ports.keys = listed.foldl appendNew before.ports.keys
  unlisted : ∀ port ∉ listed, after.ports.get? port = before.ports.get? port
  /-- Of a port that is listed only the VLANs change; a new one has nothing else. -/
  listed : ∀ port ∈ listed, (after.ports.get? port).map Port.withoutVlans =
    some (portAt before port).withoutVlans

theorem VlanFrame.refl (id : Text) (network : Network) : VlanFrame id [] network network :=
  ⟨rfl, rfl, rfl, fun _ _ => rfl, rfl, fun _ _ => rfl, fun _ h => by cases h⟩

theorem Action.ports_inVlan (id : Text) (statement : VlanStatement) :
    (Action.inVlan id statement).ports = statement.listed := by
  cases statement <;> rfl

theorem Action.mem_vlans_inVlan {id vlan : Text} {statement : VlanStatement}
    (h : vlan ∈ (Action.inVlan id statement).vlans) : vlan = id := by
  cases statement with
  | tagged ports =>
    obtain ⟨_, _, rfl⟩ := List.mem_map.mp h
    rfl
  | untagged ports =>
    obtain ⟨_, _, rfl⟩ := List.mem_map.mp h
    rfl
  | _ => exact List.mem_singleton.mp h

/-- A statement does nothing to a port that it does not list. -/
theorem VlanStatement.onPort_of_notMem {statement : VlanStatement} {port : Text}
    (h : port ∉ statement.listed) (vlan : Text) (record : Port) :
    statement.onPort vlan port record = record := by
  cases statement with
  | tagged ports =>
    have hnot : ¬ ports.contains port = true := fun hc => h (List.contains_iff_mem.mp hc)
    rw [onPort, if_neg hnot]
  | untagged ports =>
    have hnot : ¬ ports.contains port = true := fun hc => h (List.contains_iff_mem.mp hc)
    rw [onPort, if_neg hnot]
  | _ => rfl

theorem VlanStatement.vlanFrame {network : Network} {id : Text} (hid : id ∈ network.vlans.keys)
    (statement : VlanStatement) :
    VlanFrame id statement.listed network (statement.apply network id) := by
  have happly : statement.apply network id = (Action.inVlan id statement).apply network := rfl
  have hports := (Action.inVlan id statement).ports_keys_apply network
  rw [Action.ports_inVlan] at hports
  have hvlans : ((Action.inVlan id statement).apply network).vlans.keys = network.vlans.keys := by
    rw [Action.vlans_keys_apply]
    exact foldl_appendNew_of_subset fun vlan hvlan => Action.mem_vlans_inVlan hvlan ▸ hid
  rw [happly]
  constructor
  case source => exact Action.source_apply _ network
  case device =>
    rw [Action.device_apply]
    exact List.append_nil _
  case vlanIds => exact hvlans
  case otherVlans =>
    intro vlan hne
    refine get?_vlans_eq (by rw [hvlans]) ?_
    rw [Action.vlanAt_apply, Action.onVlan, if_neg (Ne.symm hne)]
  case portIds => exact hports
  case unlisted =>
    intro port hport
    refine get?_ports_eq ?_ ?_
    · rw [hports, mem_foldl_appendNew, or_iff_left hport]
    · rw [Action.portAt_apply]
      exact VlanStatement.onPort_of_notMem hport id _
  case listed =>
    intro port hport
    have hmem : port ∈ ((Action.inVlan id statement).apply network).ports.keys := by
      rw [hports]
      exact mem_foldl_appendNew.mpr (.inr hport)
    rw [get?_ports_of_mem hmem, Action.portAt_apply, Option.map_some,
      Action.withoutVlans_onPort, if_neg (by simp [Action.block?])]

theorem State.Reached.vlanFrame {state : State} (h : state.Reached) {id line : Text}
    (hblock : state.block = .vlan id) (howns : (Block.vlan id).owns line = true) :
    (state.step line).block = .vlan id ∧
      VlanFrame id (listedOn line) state.network (state.step line).network := by
  have hrecorded := h.recorded
  rw [hblock] at hrecorded
  rw [State.step_owned (hblock ▸ howns), hblock]
  refine ⟨rfl, ?_⟩
  cases hstatement : VlanStatement.ofLine? line with
  | none =>
    simp only [Block.statement?, listedOn, hstatement]
    exact .refl id state.network
  | some statement =>
    simp only [Block.statement?, listedOn, hstatement]
    exact statement.vlanFrame hrecorded

structure SameFor (port : Text) (a b : Network) : Prop where
  record : a.ports.get? port = b.ports.get? port
  untagged : ∀ vlan, a.HasUntagged port vlan ↔ b.HasUntagged port vlan
  tagged : ∀ vlan, a.HasTagged port vlan ↔ b.HasTagged port vlan

structure Action.AlikeFor (port : Text) (a b : Action) : Prop where
  named : port ∈ a.ports ↔ port ∈ b.ports
  onPort : a.onPort port = b.onPort port
  untags : a.untags? port = b.untags? port
  tags : a.tags? port = b.tags? port

/-- The rest of a history does not make two such actions differ for the port. -/
theorem Action.AlikeFor.sameFor {port : Text} {a b : Action} (h : a.AlikeFor port b)
    (before after : List Action) :
    SameFor port (replay start (before ++ a :: after)) (replay start (before ++ b :: after)) where
  record := by
    refine get?_ports_eq ?_ ?_
    · simp only [mem_ports_keys_replay, List.mem_append, List.mem_cons, or_and_right, exists_or,
        exists_eq_left, h.named]
    · simp only [portAt_replay, List.foldl_append, List.foldl_cons, h.onPort]
  untagged vlan := by
    simp only [hasUntagged_iff, untaggedBy, List.filterMap_append, List.filterMap_cons, h.untags]
  tagged vlan := by
    simp only [hasTagged_iff, taggedBy, List.filterMap_append, List.filterMap_cons, h.tags]

/-- Two lists are the same for a port that both of them name or neither. -/
theorem PortKeyword.alikeFor {keyword port : Text} {make : List Text → VlanStatement}
    (h : PortKeyword keyword make) {ports more : List Text} (agree : port ∈ ports ↔ port ∈ more)
    (id : Text) : (Action.inVlan id (make ports)).AlikeFor port (.inVlan id (make more)) := by
  have hcontains : ports.contains port = more.contains port := by
    rw [Bool.eq_iff_iff, List.contains_iff_mem, List.contains_iff_mem, agree]
  cases h with
  | tagged =>
    constructor
    case named => exact agree
    case onPort => simp only [Action.onPort, VlanStatement.onPort, hcontains]
    case untags => rfl
    case tags => simp only [Action.tags?, hcontains]
  | untagged =>
    constructor
    case named => exact agree
    case onPort => simp only [Action.onPort, VlanStatement.onPort, hcontains]
    case untags => simp only [Action.untags?, hcontains]
    case tags => rfl

/-- A list of ports in the block of a VLAN is replaced by another one that lists the port if and
only if the first one does. -/
inductive ListReplaced (port : Text) : Text → Text → Prop
  | intro {before after : List Text} {id keyword line newLine list newList : Text}
    {make : List Text → VlanStatement} (block : (run (joinWith ['\n'] before)).block = .vlan id)
    (listing : PortKeyword keyword make)
    (oneLine : OneLine line) (lists : foldedArgument? keyword (trim line) = some list)
    (newOneLine : OneLine newLine) (newLists : foldedArgument? keyword (trim newLine) = some newList)
    (agree : port ∈ NumberList.ports list ↔ port ∈ NumberList.ports newList) :
    ListReplaced port (joinWith ['\n'] (before ++ line :: after))
      (joinWith ['\n'] (before ++ newLine :: after))

/-- The actions of a text around one of its lines. -/
theorem actions_joinWith {before after : List Text} {id line : Text} {a : Action}
    (hblock : (run (joinWith ['\n'] before)).block = .vlan id) (hone : OneLine line)
    (hne : trim line ≠ []) (hread : (Block.vlan id).read (trim line) = (some a, .vlan id)) :
    actions (joinWith ['\n'] (before ++ line :: after)) =
      actions (joinWith ['\n'] before) ++
        a :: ((Block.vlan id).readAll (after.flatMap significantLines)).1 := by
  have hopen : (Block.none.readAll (before.flatMap significantLines)).2 = .vlan id := by
    rw [← hblock, run, foldl_step_block, significantLines_joinWith]
    rfl
  have hline : significantLines line = [trim line] := by
    rw [significantLines_of_oneLine hone, if_neg hne]
  rw [actions, actions, significantLines_joinWith, significantLines_joinWith, List.flatMap_append,
    List.flatMap_cons, hline, List.singleton_append, Block.readAll_append, hopen, Block.readAll,
    hread]
  rfl

/-- The port is the same after the two texts. -/
theorem ListReplaced.sameFor {port text other : Text} (h : ListReplaced port text other) :
    SameFor port (read text) (read other) := by
  cases h with
  | intro block listing oneLine lists newOneLine newLists agree =>
    rw [read_eq_replay, read_eq_replay,
      actions_joinWith block oneLine (listing.ne_nil lists) (listing.read lists _),
      actions_joinWith block newOneLine (listing.ne_nil newLists) (listing.read newLists _)]
    exact (listing.alikeFor agree _).sameFor _ _

/-- In every state of the reader a line in the block of a port changes the settings of this port
only, and one in the block of a VLAN the record of this VLAN and the VLANs of the ports that it
lists. So another list makes no difference to a port, unless one of the two lists it alone. -/
theorem statements_framed :
    (∀ state : State, state.Reached → ∀ id line,
      (state.block = .port id → (Block.port id).owns line = true →
        (state.step line).block = .port id ∧
          PortFrame id state.network (state.step line).network) ∧
      (state.block = .vlan id → (Block.vlan id).owns line = true →
        (state.step line).block = .vlan id ∧
          VlanFrame id (listedOn line) state.network (state.step line).network)) ∧
    ∀ port text other, ListReplaced port text other → SameFor port (read text) (read other) :=
  ⟨fun _ reached _ _ => ⟨reached.portFrame, reached.vlanFrame⟩, fun _ _ _ => ListReplaced.sameFor⟩

/-- A described port, and the block of a VLAN that is open after it. -/
def describedPort : Text := "interface 4\n   name desk\n   exit\nvlan 10\n   untagged 4".toList

theorem describedPort_framed :
    (run "interface 4".toList).block = .port "4".toList ∧
      PortFrame "4".toList (run "interface 4".toList).network
        ((run "interface 4".toList).step "name desk".toList).network ∧
      (run describedPort).block = .vlan "10".toList ∧
      VlanFrame "10".toList ["5".toList, "6".toList] (run describedPort).network
        ((run describedPort).step "tagged 5-6".toList).network ∧
      ListReplaced "4".toList (describedPort ++ "\n   TAGGED 5-6\n   exit".toList)
        (describedPort ++ "\n   tagged 7,x\n   exit".toList) ∧
      SameFor "4".toList (read (describedPort ++ "\n   TAGGED 5-6\n   exit".toList))
        (read (describedPort ++ "\n   tagged 7,x\n   exit".toList)) := by
  have hport : (run "interface 4".toList).block = .port "4".toList := by decide +kernel
  have hvlan : (run describedPort).block = .vlan "10".toList := by decide +kernel
  have hlists : foldedArgument? "tagged".toList (trim "   TAGGED 5-6".toList) =
      some "5-6".toList := by decide +kernel
  have hnewLists : foldedArgument? "tagged".toList (trim "   tagged 7,x".toList) =
      some "7,x".toList := by decide +kernel
  have hreplaced : ListReplaced "4".toList
      (joinWith ['\n'] ([describedPort] ++ "   TAGGED 5-6".toList :: ["   exit".toList]))
      (joinWith ['\n'] ([describedPort] ++ "   tagged 7,x".toList :: ["   exit".toList])) :=
    .intro hvlan .tagged (by decide) hlists (by decide) hnewLists (by decide +kernel)
  have hname : (Block.port "4".toList).owns "name desk".toList = true := by decide +kernel
  have htagged : (Block.vlan "10".toList).owns "tagged 5-6".toList = true := by decide +kernel
  have hlisted : listedOn "tagged 5-6".toList = ["5".toList, "6".toList] := by decide +kernel
  have hvlanFrame := ((statements_framed.1 _ (reached_run _) _ _).2 hvlan htagged).2
  rw [hlisted] at hvlanFrame
  exact ⟨hport, ((statements_framed.1 _ (reached_run _) _ _).1 hport hname).2, hvlan, hvlanFrame,
    hreplaced, statements_framed.2 _ _ _ hreplaced⟩

end ProCurve

end SwitchDialects
