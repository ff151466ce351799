import SwitchDialects.Proofs.NumberList.Reading
import SwitchDialects.Proofs.ProCurve.Written

/-!
# Lists continued on another line

A long list is written on several lines, in IOS with `add` before each part but the first. Reading a
list is additive at its commas: the parts are accepted when the whole is, and they name together
what the whole names. So the lines leave exactly the state that one line with the whole list leaves,
whatever was read before them.
-/

namespace SwitchDialects

open Text NumberList

section

variable {σ : Type} (step : σ → Text → σ) (state : σ)

/-- The state after the lines of a text, from a given state on. -/
def readOn (text : Text) : σ := (significantLines text).foldl step state

theorem readOn_append (text more : Text) :
    readOn step state (text ++ '\n' :: more) = readOn step (readOn step state text) more := by
  rw [readOn, significantLines_append, List.foldl_append, readOn, readOn]

theorem readOn_oneLine {line : Text} (hone : OneLine line) (h : trim line ≠ []) :
    readOn step state line = step state (trim line) := by
  rw [readOn, significantLines_of_oneLine hone, if_neg h, List.foldl_cons, List.foldl_nil]

end

namespace Ios

def trunkLine (list : Text) : Text := "switchport trunk allowed vlan".toList ++ ' ' :: list

def trunkMoreLine (list : Text) : Text := trunkLine ("add".toList ++ ' ' :: list)

theorem ofLine?_trunkLine {list : Text} (h : trim list ≠ []) :
    PortStatement.ofLine? (trunkLine list) = some (.trunk (trunkList (trim list))) := by
  have hlist : argument? "switchport trunk allowed vlan".toList (trunkLine list) =
      some (trim list) := argument?_append_trim h
  have hdescription : argument? "description".toList (trunkLine list) = none := rfl
  have hmode : argument? "switchport mode".toList (trunkLine list) = none := rfl
  have haccess : argument? "switchport access vlan".toList (trunkLine list) = none := rfl
  rw [PortStatement.ofLine?, hdescription, hmode, haccess, hlist]
  simp only [Option.map_none, Option.map_some, Option.orElse_eq_orElse, Option.orElse_eq_or,
    Option.none_or, Option.some_or]

theorem isBody_trunkLine (list : Text) : isBody (trunkLine list) = true := decide_eq_true ⟨rfl, rfl⟩

/-- A change of a port does not touch the members of VLANs. -/
theorem modifyPort_foldl_joinTagged (network : Network) (port id : Text) (change : Port → Port)
    (vlans : List Text) :
    (vlans.foldl (joinTagged port) network).modifyPort id change =
      vlans.foldl (joinTagged port) (network.modifyPort id change) := by
  induction vlans generalizing network with
  | nil => rfl
  | cons vlan vlans ih => exact ih _

/-- The VLANs of a trunk may be given in several turns. -/
theorem applyTo_trunk_append (network : Network) (id : Text) (vlans more : List Text) :
    (PortStatement.trunk (vlans ++ more)).applyTo network id =
      (PortStatement.trunk more).applyTo ((PortStatement.trunk vlans).applyTo network id) id := by
  have hports : network.ports.modify id (PortStatement.trunk (vlans ++ more)).apply =
      (network.ports.modify id (PortStatement.trunk vlans).apply).modify id
        (PortStatement.trunk more).apply := by
    rw [OrderedMap.modify_modify]
    exact congrArg _ (funext fun port => List.foldl_append)
  have hport : network.modifyPort id (PortStatement.trunk (vlans ++ more)).apply =
      (network.modifyPort id (PortStatement.trunk vlans).apply).modifyPort id
        (PortStatement.trunk more).apply := congrArg (fun ports => { network with ports }) hports
  calc (PortStatement.trunk (vlans ++ more)).applyTo network id
    _ = (vlans ++ more).foldl (joinTagged id)
          (network.modifyPort id (PortStatement.trunk (vlans ++ more)).apply) := rfl
    _ = more.foldl (joinTagged id) (vlans.foldl (joinTagged id)
          ((network.modifyPort id (PortStatement.trunk vlans).apply).modifyPort id
            (PortStatement.trunk more).apply)) := by rw [List.foldl_append, hport]
    _ = more.foldl (joinTagged id) ((vlans.foldl (joinTagged id)
          (network.modifyPort id (PortStatement.trunk vlans).apply)).modifyPort id
            (PortStatement.trunk more).apply) := by rw [modifyPort_foldl_joinTagged]
    _ = (PortStatement.trunk more).applyTo ((PortStatement.trunk vlans).applyTo network id) id :=
      rfl

theorem applyTo_trunk_nil (network : Network) (id : Text) :
    (PortStatement.trunk []).applyTo network id = network :=
  congrArg (fun ports => { network with ports }) (OrderedMap.modify_id network.ports id)

section

variable {state : State} {id : Text}

/-- What a trunk statement does in the block of a port. -/
theorem readOn_trunkLine (hblock : state.block = .port id) {list : Text} (hone : OneLine list) :
    readOn State.step state (trunkLine list) =
      ⟨(PortStatement.trunk (trunkList (trim list))).applyTo state.network id, .port id⟩ := by
  have hkeyword : Significant "switchport trunk allowed vlan".toList :=
    significant_of_ends (by decide) (by decide) (by decide)
  have honeLine : OneLine (trunkLine list) := hkeyword.oneLine.append_cons (by decide) hone
  by_cases h : trim list = []
  case pos =>
    -- a keyword without a list is no statement
    have hline : trim (trunkLine list) = "switchport trunk allowed vlan".toList :=
      trim_keyword_of_blank hkeyword.trimmed h
    have hbody : isBody "switchport trunk allowed vlan".toList = true := by decide
    have hmember : PortStatement.ofLine? "switchport trunk allowed vlan".toList = none := by
      decide +kernel
    have hnone : trunkList [] = [] := by decide
    rw [readOn_oneLine State.step state honeLine (hline ▸ hkeyword.ne_nil), hline, State.step_eq,
      Block.read_body hbody, hblock, Block.member, hmember, h, hnone, applyTo_trunk_nil]
    rfl
  case neg =>
    obtain ⟨behind, hline, hbehind⟩ := exists_trim_keyword hkeyword.trimmed hkeyword.ne_nil h
    have hread := ofLine?_trunkLine (hbehind ▸ h : trim behind ≠ [])
    have hline : trim (trunkLine list) = trunkLine behind := hline
    have hne : trunkLine behind ≠ [] := List.append_ne_nil_of_left_ne_nil hkeyword.ne_nil _
    rw [readOn_oneLine State.step state honeLine (hline ▸ hne), hline, State.step_eq,
      Block.read_body (isBody_trunkLine behind), hblock, Block.member, hread, hbehind]
    rfl

/-- A list that is rejected leaves everything as it is. -/
theorem readOn_of_rejected (hblock : state.block = .port id) {list : Text} (hone : OneLine list)
    (h : accepts (trunkSpec (trim list)) = false) :
    readOn State.step state (trunkLine list) = state := by
  have hnone : trunkList (trim list) = [] := by
    rw [trunkList_eq, h]
    rfl
  rw [readOn_trunkLine hblock hone, hnone, applyTo_trunk_nil, ← hblock]

end

/-- What stands behind `add` is judged and read by itself. -/
theorem trunkSpec_add {list : Text} (h : trim list ≠ []) :
    trunkSpec (trim ("add".toList ++ ' ' :: list)) = trim list := by
  have hkeyword : Significant "add".toList :=
    significant_of_ends (by decide) (by decide) (by decide)
  obtain ⟨behind, hline, hbehind⟩ := exists_trim_keyword hkeyword.trimmed hkeyword.ne_nil h
  have hprefix : "add ".toList.isPrefixOf? ("add".toList ++ ' ' :: behind) = some behind :=
    List.isPrefixOf?_eq_some_iff_append_eq.mpr rfl
  rw [hline, trunkSpec, hprefix]
  exact hbehind

theorem oneLine_add {list : Text} (h : OneLine list) : OneLine ("add".toList ++ ' ' :: list) :=
  OneLine.append_cons (by decide) (by decide) h

theorem accepts_trunkSpec_add (list : Text) :
    accepts (trunkSpec (trim ("add".toList ++ ' ' :: list))) = accepts list := by
  by_cases h : trim list = []
  · have hadd : Trimmed "add".toList :=
      (significant_of_ends (by decide) (by decide) (by decide)).trimmed
    rw [trim_keyword_of_blank hadd h, ← accepts_trim list, h]
    decide
  · rw [trunkSpec_add h, accepts_trim]

theorem trunkList_trim_of_accepts {list : Text} (h : accepts list = true) :
    trunkList (trim list) = vlans list := by
  rw [trunkList_of_accepts ((accepts_trim list).trans h), vlans_trim]

theorem trunkList_add_of_accepts {list : Text} (h : accepts list = true) :
    trunkList (trim ("add".toList ++ ' ' :: list)) = vlans list := by
  have hne : trim list ≠ [] := by
    intro hnil
    rw [← accepts_trim, hnil] at h
    exact absurd h (by decide)
  rw [trunkList_eq, trunkSpec_add hne, accepts_trim, if_pos h, vlans_trim]

section

variable {state : State} {id a b : Text}

theorem readOn_accepted (hblock : state.block = .port id) {list : Text} (hone : OneLine list)
    (h : accepts list = true) : readOn State.step state (trunkLine list) =
      ⟨(PortStatement.trunk (vlans list)).applyTo state.network id, .port id⟩ := by
  rw [readOn_trunkLine hblock hone, trunkList_trim_of_accepts h]

theorem readOn_accepted_more (hblock : state.block = .port id) {list : Text} (hone : OneLine list)
    (h : accepts list = true) : readOn State.step state (trunkMoreLine list) =
      ⟨(PortStatement.trunk (vlans list)).applyTo state.network id, .port id⟩ := by
  rw [trunkMoreLine, readOn_trunkLine hblock (oneLine_add hone), trunkList_add_of_accepts h]

theorem readOn_rejected_more (hblock : state.block = .port id) {list : Text} (hone : OneLine list)
    (h : accepts list = false) : readOn State.step state (trunkMoreLine list) = state := by
  exact readOn_of_rejected hblock (oneLine_add hone) ((accepts_trunkSpec_add list).trans h)

theorem readOn_parts (hblock : state.block = .port id) (ha : OneLine a) (hb : OneLine b)
    (h : accepts (a ++ ',' :: b) = true) :
    readOn State.step state (trunkLine a ++ '\n' :: trunkMoreLine b) =
      ⟨(PortStatement.trunk (vlans a ++ vlans b)).applyTo state.network id, .port id⟩ := by
  obtain ⟨haccepts, hbaccepts⟩ := accepts_append.mp h
  rw [readOn_append, readOn_accepted hblock ha haccepts, readOn_accepted_more rfl hb hbaccepts,
    applyTo_trunk_append]

theorem readOn_whole (hblock : state.block = .port id) (ha : OneLine a) (hb : OneLine b)
    (h : accepts (a ++ ',' :: b) = true) :
    readOn State.step state (trunkLine (a ++ ',' :: b)) =
      ⟨(PortStatement.trunk (vlans a ++ vlans b)).applyTo state.network id, .port id⟩ := by
  rw [readOn_accepted hblock (ha.append_cons (by decide) hb) h, vlans_append]

end

end Ios

namespace ProCurve

/-- A keyword that lists ports in the block of a VLAN, and the statement that it makes. -/
structure ListsPorts (keyword : Text) (statement : List Text → VlanStatement) : Prop where
  significant : Significant keyword
  read (id list : Text) (h : trim list ≠ []) : (Block.vlan id).read (keyword ++ ' ' :: list) =
    (some (.inVlan id (statement (ports list))), .vlan id)
  append (network : Network) (id : Text) (ports more : List Text) :
    (statement (ports ++ more)).apply network id =
      (statement more).apply ((statement ports).apply network id) id

theorem listsPorts_tagged : ListsPorts "tagged".toList .tagged where
  significant := significant_of_ends (by decide) (by decide) (by decide)
  read _ _ h := read_tagged h
  append _ _ _ _ := List.foldl_append

theorem listsPorts_untagged : ListsPorts "untagged".toList .untagged where
  significant := significant_of_ends (by decide) (by decide) (by decide)
  read _ _ h := read_untagged h
  append _ _ _ _ := List.foldl_append

def taggedLine (list : Text) : Text := "tagged".toList ++ ' ' :: list

def untaggedLine (list : Text) : Text := "untagged".toList ++ ' ' :: list

section

variable {keyword id a b : Text} {statement : List Text → VlanStatement} {state : State}

/-- What a list of ports does in the block of a VLAN. -/
theorem ListsPorts.readOn_list (h : ListsPorts keyword statement) (hblock : state.block = .vlan id)
    {list : Text} (hone : OneLine list) (hne : trim list ≠ []) :
    readOn State.step state (keyword ++ ' ' :: list) =
      ⟨(statement (ports list)).apply state.network id, .vlan id⟩ := by
  obtain ⟨behind, hline, hbehind⟩ :=
    exists_trim_keyword h.significant.trimmed h.significant.ne_nil hne
  have hvisible : trim (keyword ++ ' ' :: list) ≠ [] := by
    rw [hline]
    exact List.append_ne_nil_of_left_ne_nil h.significant.ne_nil _
  have hports : ports behind = ports list := by rw [← ports_trim, hbehind, ports_trim]
  rw [readOn_oneLine State.step state (h.significant.oneLine.append_cons (by decide) hone) hvisible,
    hline, State.step_eq, hblock, h.read id behind (hbehind ▸ hne), hports]
  rfl

theorem ListsPorts.readOn_parts (h : ListsPorts keyword statement) (hblock : state.block = .vlan id)
    (ha : OneLine a) (hb : OneLine b) (hane : trim a ≠ []) (hbne : trim b ≠ []) :
    readOn State.step state ((keyword ++ ' ' :: a) ++ '\n' :: (keyword ++ ' ' :: b)) =
      ⟨(statement (ports a ++ ports b)).apply state.network id, .vlan id⟩ := by
  rw [readOn_append, h.readOn_list hblock ha hane, h.readOn_list rfl hb hbne, h.append]

theorem ListsPorts.readOn_whole (h : ListsPorts keyword statement)
    (hblock : state.block = .vlan id) (ha : OneLine a) (hb : OneLine b) :
    readOn State.step state (keyword ++ ' ' :: (a ++ ',' :: b)) =
      ⟨(statement (ports a ++ ports b)).apply state.network id, .vlan id⟩ := by
  have hne : trim (a ++ ',' :: b) ≠ [] := trim_ne_nil (c := ',') (by simp) (by decide)
  rw [h.readOn_list hblock (ha.append_cons (by decide) hb) hne, ports_append]

end

end ProCurve

/-- A list may be cut at any comma and its second part moved to a line of its own. In IOS both parts
are accepted if and only if the whole list is, and a line with a rejected list changes nothing. -/
theorem list_continued :
    (∀ a b, accepts (a ++ ',' :: b) = true ↔ accepts a = true ∧ accepts b = true) ∧
    (∀ (state : Ios.State) (id : Text), state.block = .port id →
      (∀ a b, OneLine a → OneLine b → accepts (a ++ ',' :: b) = true →
        readOn Ios.State.step state (Ios.trunkLine a ++ '\n' :: Ios.trunkMoreLine b) =
            readOn Ios.State.step state (Ios.trunkLine (a ++ ',' :: b)) ∧
          readOn Ios.State.step state (Ios.trunkLine (a ++ ',' :: b)) =
            ⟨(Ios.PortStatement.trunk (vlans a ++ vlans b)).applyTo state.network id, .port id⟩) ∧
      (∀ list, OneLine list →
        (accepts (Ios.trunkSpec (trim list)) = false →
          readOn Ios.State.step state (Ios.trunkLine list) = state) ∧
        (accepts list = false →
          readOn Ios.State.step state (Ios.trunkMoreLine list) = state))) ∧
    (∀ (state : ProCurve.State) (id a b : Text), state.block = .vlan id → OneLine a → OneLine b →
      trim a ≠ [] → trim b ≠ [] →
      (readOn ProCurve.State.step state (ProCurve.taggedLine a ++ '\n' :: ProCurve.taggedLine b) =
          readOn ProCurve.State.step state (ProCurve.taggedLine (a ++ ',' :: b)) ∧
        readOn ProCurve.State.step state (ProCurve.taggedLine (a ++ ',' :: b)) =
          ⟨(ProCurve.VlanStatement.tagged (ports a ++ ports b)).apply state.network id,
            .vlan id⟩) ∧
      (readOn ProCurve.State.step state
            (ProCurve.untaggedLine a ++ '\n' :: ProCurve.untaggedLine b) =
          readOn ProCurve.State.step state (ProCurve.untaggedLine (a ++ ',' :: b)) ∧
        readOn ProCurve.State.step state (ProCurve.untaggedLine (a ++ ',' :: b)) =
          ⟨(ProCurve.VlanStatement.untagged (ports a ++ ports b)).apply state.network id,
            .vlan id⟩)) := by
  refine ⟨fun a b => accepts_append, fun state id hblock => ⟨?accepted, ?rejected⟩, ?listed⟩
  case accepted =>
    intro a b ha hb h
    have hwhole := Ios.readOn_whole hblock ha hb h
    exact ⟨(Ios.readOn_parts hblock ha hb h).trans hwhole.symm, hwhole⟩
  case rejected =>
    intro list hone
    exact ⟨Ios.readOn_of_rejected hblock hone, Ios.readOn_rejected_more hblock hone⟩
  case listed =>
    intro state id a b hblock ha hb hane hbne
    have htagged := ProCurve.listsPorts_tagged.readOn_whole hblock ha hb
    have huntagged := ProCurve.listsPorts_untagged.readOn_whole hblock ha hb
    exact ⟨⟨(ProCurve.listsPorts_tagged.readOn_parts hblock ha hb hane hbne).trans htagged.symm,
      htagged⟩,
      (ProCurve.listsPorts_untagged.readOn_parts hblock ha hb hane hbne).trans huntagged.symm,
      huntagged⟩

/-- The block of a port is open, after two of the VLANs that its trunk is to carry. -/
def inPortBlock : Ios.State := Ios.run "vlan 10\nvlan 21\ninterface Gi0/1\n shutdown".toList

/-- The block of a VLAN is open, after a port was made a member of it. -/
def inVlanBlock : ProCurve.State := ProCurve.run "vlan 10\n   untagged 5".toList

theorem list_continued_in_blocks :
    readOn Ios.State.step inPortBlock
        (Ios.trunkLine "10".toList ++ '\n' :: Ios.trunkMoreLine "20-22".toList) =
      readOn Ios.State.step inPortBlock (Ios.trunkLine "10,20-22".toList) ∧
    readOn Ios.State.step inPortBlock (Ios.trunkMoreLine "20-5000".toList) = inPortBlock ∧
    readOn ProCurve.State.step inVlanBlock
        (ProCurve.taggedLine "1-3".toList ++ '\n' :: ProCurve.taggedLine "05".toList) =
      readOn ProCurve.State.step inVlanBlock (ProCurve.taggedLine "1-3,05".toList) := by
  have hport : inPortBlock.block = .port ['1'] := by decide +kernel
  have hvlan : inVlanBlock.block = .vlan "10".toList := by decide +kernel
  have haccepts : accepts ("10".toList ++ ',' :: "20-22".toList) = true := by decide +kernel
  have hrejects : accepts "20-5000".toList = false := by decide +kernel
  obtain ⟨haccepted, hrejected⟩ := list_continued.2.1 inPortBlock ['1'] hport
  have hlisted := list_continued.2.2 inVlanBlock "10".toList "1-3".toList "05".toList hvlan
    (by decide) (by decide) (by decide) (by decide)
  exact ⟨(haccepted "10".toList "20-22".toList (by decide) (by decide) haccepts).1,
    (hrejected "20-5000".toList (by decide)).2 hrejects, hlisted.1.1⟩

end SwitchDialects
