import SwitchDialects.Writer
import SwitchDialects.Proofs.Ios.Plain
import SwitchDialects.Proofs.NumberList.Ports
import SwitchDialects.Proofs.ProCurve.Keywords

/-!
# Reading a written ProCurve configuration

A written configuration is read line by line in the blocks it was written in: no text of a user is
taken for another statement, every block ends at its own last line, and a list of ports comes back
as it was. So the actions of a written configuration are known.
-/

namespace SwitchDialects

open Text

namespace ProCurve

open NumberList

theorem Block.readAll_singleton {block next : Block} {line : Text} {a : Option Action}
    (h : block.read line = (a, next)) : block.readAll [line] = (a.toList, next) := by
  simp [Block.readAll, h]

/-- Pieces that are read one after the other. -/
theorem Block.readAll_append_of {block middle last : Block} {lines more : List Text}
    {as bs : List Action} (h : block.readAll lines = (as, middle))
    (hmore : middle.readAll more = (bs, last)) :
    block.readAll (lines ++ more) = (as ++ bs, last) := by
  rw [Block.readAll_append, h]
  simp only [hmore]

/-- Pieces that each leave no block open. -/
theorem readAll_flatMap {ι : Type} {lines : ι → List Text} {as : ι → List Action}
    {items : List ι} (h : ∀ x ∈ items, Block.none.readAll (lines x) = (as x, .none)) :
    Block.none.readAll (items.flatMap lines) = (items.flatMap as, .none) := by
  induction items with
  | nil => rfl
  | cons x items ih =>
    rw [List.flatMap_cons, List.flatMap_cons]
    exact Block.readAll_append_of (h x (by simp)) (ih fun y hy => h y (by simp [hy]))

theorem takeWhile_decimalDigit {id : Text} (h : Decimal.isNumber id = true) :
    id.takeWhile isDecimalDigit = id := by
  have hall : ∀ c ∈ id, isDecimalDigit c = true := fun c hc =>
    isDecimalDigit_of_isDigit ((Decimal.isDigit_of_isNumber h).2 c hc)
  have hnil : (id ++ []).takeWhile isDecimalDigit = id ++ [].takeWhile isDecimalDigit :=
    List.takeWhile_append_of_pos hall
  simpa using hnil

theorem vlanHeader?_append {id : Text} (h : Decimal.isNumber id = true) :
    vlanHeader? ("vlan ".toList ++ id) = some id := by
  have hsig := Decimal.significant_of_isNumber h
  have hafter : afterBlank? "vlan".toList ("vlan ".toList ++ id) = some (id.dropWhile isBlank) :=
    rfl
  rw [dropWhile_eq_self hsig.trimmed.first] at hafter
  rw [vlanHeader?, foldedRun?, hafter, Option.map_some, takeWhile_decimalDigit h]
  cases id with
  | nil => exact absurd rfl hsig.ne_nil
  | cons c rest => rfl

theorem portHeader?_append {id : Text} (h : Decimal.isNumber id = true) :
    portHeader? ("interface ".toList ++ id) = some id := by
  have hsig := Decimal.significant_of_isNumber h
  have hafter : afterBlank? "interface".toList ("interface ".toList ++ id) =
      some (id.dropWhile isBlank) := rfl
  rw [dropWhile_eq_self hsig.trimmed.first] at hafter
  have htake := takeWhile_decimalDigit h
  have hdrop : id.dropWhile isDecimalDigit = [] := by
    have hboth := List.takeWhile_append_dropWhile (p := isDecimalDigit) (l := id)
    rw [htake] at hboth
    exact List.append_right_eq_self.mp hboth
  have hne : id.isEmpty = false := by simpa using hsig.ne_nil
  rw [portHeader?, hafter, Option.bind_some, htake, hdrop]
  simp [hne, atBoundary]

theorem read_vlanHeader {id : Text} (h : Decimal.isNumber id = true) (block : Block) :
    block.read ("vlan ".toList ++ id) = (some (.openVlan id), .vlan id) := by
  have hloc : location? ("vlan ".toList ++ id) = none := rfl
  unfold Block.read
  rw [hloc, vlanHeader?_append h]

theorem read_portHeader {id : Text} (h : Decimal.isNumber id = true) :
    Block.none.read ("interface ".toList ++ id) = (some (.openPort id), .port id) := by
  have hloc : location? ("interface ".toList ++ id) = none := rfl
  have hvlan : vlanHeader? ("interface ".toList ++ id) = none := rfl
  unfold Block.read
  rw [hloc, hvlan, portHeader?_append h]

def reread : DeviceStatement → Option DeviceStatement
  | .hostname name => some (.hostname (unquote name))
  | .location text => some (.location (quoted (withoutQuotes text)))
  | _ => none

def deviceActions (statement : DeviceStatement) : List Action :=
  (reread statement).toList.map .declare

theorem readAll_deviceLine {statement : DeviceStatement} (h : statement.Plain) :
    Block.none.readAll (deviceLine? statement).toList = (deviceActions statement, .none) := by
  cases statement with
  | hostname name =>
    have hname : Significant name := h
    have hread : Block.none.read ("hostname ".toList ++ name) =
        Block.none.readOther ("hostname ".toList ++ name) := rfl
    have hfold : foldedArgument? "hostname".toList ("hostname ".toList ++ name) = some name :=
      foldedArgument?_of_afterBlank rfl hname.trimmed hname.ne_nil
    have hother : Block.none.readOther ("hostname ".toList ++ name) =
        (some (.declare (.hostname (unquote name))), .none) := by
      unfold Block.readOther
      rw [hostname?, hfold, Option.map_some]
    exact Block.readAll_singleton (hread.trans hother)
  | community name access => rfl
  | location text =>
    have hsig := significant_quoted (OneLine.withoutQuotes (Significant.oneLine h))
    have hline : "snmp-server location ".toList ++ quoted (withoutQuotes text) =
        "snmp-server location".toList ++ ' ' :: quoted (withoutQuotes text) := by simp
    have hloc := @argument?_append "snmp-server location".toList _ hsig.trimmed hsig.ne_nil
    have hread : Block.none.read ("snmp-server location ".toList ++ quoted (withoutQuotes text)) =
        (some (.declare (.location (quoted (withoutQuotes text)))), .none) := by
      unfold Block.read
      rw [location?, hline, hloc]
    exact Block.readAll_singleton hread
  | spanningTree mode =>
    have hread : Block.none.read "spanning-tree".toList = (none, .none) := rfl
    by_cases hmode : mode = "rapid-pvst".toList
    · rw [deviceLine?, if_pos hmode]
      exact Block.readAll_singleton hread
    · rw [deviceLine?, if_neg hmode]
      rfl

/-- The values that a written VLAN needs in order to be read back. -/
structure WritableVlan (vlan : Vlan) : Prop where
  id : Decimal.isNumber vlan.id = true
  name : ∀ name, vlan.name = some name → OneLine name ∧ '"' ∉ name
  address : ∀ address, vlan.address = some address → Significant address
  untagged : ∀ port ∈ vlan.untagged.toList, IsPort port
  tagged : ∀ port ∈ vlan.tagged.toList, IsPort port

/-- The values with which every line of a written VLAN is one line. -/
structure LegibleVlan (vlan : Vlan) : Prop where
  id : Decimal.isNumber vlan.id = true
  name : ∀ name, vlan.name = some name → OneLine name
  address : ∀ address, vlan.address = some address → Significant address
  untagged : ∀ port ∈ vlan.untagged.toList, Decimal.isNumber port = true
  tagged : ∀ port ∈ vlan.tagged.toList, Decimal.isNumber port = true

theorem WritableVlan.legible {vlan : Vlan} (h : WritableVlan vlan) : LegibleVlan vlan where
  id := h.id
  name name hname := (h.name name hname).1
  address := h.address
  untagged port hport := (h.untagged port hport).isNumber
  tagged port hport := (h.tagged port hport).isNumber

def listing (make : List Text → VlanStatement) (ports : OrderedSet) : List VlanStatement :=
  match ports.toList with
  | [] => []
  | members => [make members]

def vlanStatements (profile : SiteProfile) (vlan : Vlan) : List VlanStatement :=
  (vlan.name.map .name).toList ++ listing .untagged vlan.untagged ++
    listing .tagged vlan.tagged ++ (if vlan.isVoice profile then [.voice] else []) ++
    (vlan.address.map .address).toList

def vlanActions (profile : SiteProfile) (vlan : Vlan) : List Action :=
  .openVlan vlan.id :: (vlanStatements profile vlan).map (.inVlan vlan.id)

/-- A line in the block of a VLAN that is a statement of that VLAN. -/
theorem readAll_statement {id line : Text} {statement : VlanStatement}
    (hread : (Block.vlan id).read line =
      ((VlanStatement.ofLine? line).map (.inVlan id), .vlan id))
    (h : VlanStatement.ofLine? line = some statement) :
    (Block.vlan id).readAll [line] = ([.inVlan id statement], .vlan id) := by
  rw [h] at hread
  exact Block.readAll_singleton hread

theorem readAll_name {id : Text} {name : Option Text}
    (h : ∀ text, name = some text → OneLine text ∧ '"' ∉ text) :
    (Block.vlan id).readAll (name.map fun text => "name ".toList ++ quoted text).toList =
      ((name.map VlanStatement.name).toList.map (.inVlan id), .vlan id) := by
  cases name with
  | none => rfl
  | some text =>
    obtain ⟨hone, hquote⟩ := h text rfl
    have hsig := significant_quoted hone
    have hfold : foldedArgument? "name".toList ("name ".toList ++ quoted text) =
        some (quoted text) := foldedArgument?_of_afterBlank rfl hsig.trimmed hsig.ne_nil
    have hline : VlanStatement.ofLine? ("name ".toList ++ quoted text) =
        ((foldedArgument? "name".toList ("name ".toList ++ quoted text)).map
          (fun t => .name (unquote t)) <|> none) := rfl
    apply readAll_statement rfl
    rw [hline, hfold, Option.map_some, unquote_quoted hquote]
    rfl

def addressLine : Option Text → Text
  | some text => "ip address ".toList ++ text
  | none => "no ip address".toList

theorem readAll_address {id : Text} {address : Option Text}
    (h : ∀ text, address = some text → Significant text) :
    (Block.vlan id).readAll [addressLine address] =
      ((address.map VlanStatement.address).toList.map (.inVlan id), .vlan id) := by
  cases address with
  | none => rfl
  | some text =>
    have hsig := h text rfl
    have hfold : foldedArgument? "ip address".toList ("ip address ".toList ++ text) =
        some text := foldedArgument?_of_afterBlank rfl hsig.trimmed hsig.ne_nil
    have hline : VlanStatement.ofLine? ("ip address ".toList ++ text) =
        ((foldedArgument? "ip address".toList ("ip address ".toList ++ text)).map .address <|>
          none) := rfl
    exact readAll_statement rfl (hline.trans (by rw [hfold]; rfl))

theorem read_untagged {id list : Text} (h : trim list ≠ []) :
    (Block.vlan id).read ("untagged".toList ++ ' ' :: list) =
      (some (.inVlan id (.untagged (NumberList.ports list))), .vlan id) := by
  have hfold : foldedArgument? "untagged".toList ("untagged".toList ++ ' ' :: list) =
      some (trim list) := foldedArgument?_of_afterBlank_trim rfl h
  rw [PortKeyword.untagged.read hfold, NumberList.ports_trim]

theorem read_tagged {id list : Text} (h : trim list ≠ []) :
    (Block.vlan id).read ("tagged".toList ++ ' ' :: list) =
      (some (.inVlan id (.tagged (NumberList.ports list))), .vlan id) := by
  have hfold : foldedArgument? "tagged".toList ("tagged".toList ++ ' ' :: list) =
      some (trim list) := foldedArgument?_of_afterBlank_trim rfl h
  rw [PortKeyword.tagged.read hfold, NumberList.ports_trim]

/-- A written list of ports is read as the statement that lists them. -/
theorem readAll_portList {id : Text} {keyword : String} {make : List Text → VlanStatement}
    (hread : ∀ list, trim list ≠ [] → (Block.vlan id).read (keyword.toList ++ ' ' :: list) =
      (some (.inVlan id (make (NumberList.ports list))), .vlan id))
    {ports : OrderedSet} (h : ∀ port ∈ ports.toList, IsPort port) :
    (Block.vlan id).readAll ((portList keyword ports).map Line.text) =
      ((listing make ports).map (.inVlan id), .vlan id) := by
  rw [portList, listing]
  cases hports : ports.toList with
  | nil => rfl
  | cons port rest =>
    rw [hports] at h
    have hne := List.cons_ne_nil port rest
    have hsig := significant_joinWith hne fun t ht => (h t ht).isNumber
    have hline := hread _ ((trim_eq_self hsig.trimmed).symm ▸ hsig.ne_nil)
    rw [ports_joinWith hne h] at hline
    exact Block.readAll_singleton hline

theorem readAll_voice {id : Text} (voice : Bool) :
    (Block.vlan id).readAll ((if voice then [Line.member "voice".toList] else []).map Line.text) =
      ((if voice then [VlanStatement.voice] else []).map (.inVlan id), .vlan id) := by
  cases voice <;> rfl

theorem vlanBlock_text (profile : SiteProfile) (vlan : Vlan) :
    (vlanBlock profile vlan).map Line.text =
      ["vlan ".toList ++ vlan.id] ++
        (vlan.name.map fun text => "name ".toList ++ quoted text).toList ++
        (portList "untagged" vlan.untagged).map Line.text ++
        (portList "tagged" vlan.tagged).map Line.text ++
        (if vlan.isVoice profile then [Line.member "voice".toList] else []).map Line.text ++
        [addressLine vlan.address] ++ ["exit".toList] := by
  rw [vlanBlock]
  simp only [List.map_append, List.append_assoc]
  cases vlan.name <;> cases vlan.address <;> rfl

/-- The block of a VLAN is read as its actions, and ends where it was written to end. -/
theorem readAll_vlanBlock {vlan : Vlan} (h : WritableVlan vlan) (profile : SiteProfile) :
    Block.none.readAll ((vlanBlock profile vlan).map Line.text) =
      (vlanActions profile vlan, .none) := by
  have hheader : Block.none.readAll ["vlan ".toList ++ vlan.id] =
      ([.openVlan vlan.id], .vlan vlan.id) := Block.readAll_singleton (read_vlanHeader h.id _)
  have hexit : (Block.vlan vlan.id).readAll ["exit".toList] = ([], .none) := rfl
  have hname := Block.readAll_append_of hheader (readAll_name h.name)
  have huntagged := Block.readAll_append_of hname (readAll_portList (fun _ => read_untagged) h.untagged)
  have htagged := Block.readAll_append_of huntagged (readAll_portList (fun _ => read_tagged) h.tagged)
  have hvoice := Block.readAll_append_of htagged (readAll_voice (vlan.isVoice profile))
  have haddress := Block.readAll_append_of hvoice (readAll_address h.address)
  rw [vlanBlock_text, Block.readAll_append_of haddress hexit, vlanActions, vlanStatements]
  simp only [List.map_append, List.append_assoc, List.append_nil, List.cons_append,
    List.nil_append]

def keptStatements : KeptStatement → List PortStatement
  | .description text => [.description (withoutQuotes text)]
  | .power enabled => [.power enabled]
  | .shutdown => [.disable, .power false]

def portActions (port : Port) : List Action :=
  .openPort port.id :: (port.kept.flatMap keptStatements).map (.inPort port.id)

theorem readAll_keptLines {id : Text} {kept : KeptStatement} (h : kept.Plain) :
    (Block.port id).readAll ((keptLines kept).map Line.text) =
      ((keptStatements kept).map (.inPort id), .port id) := by
  cases kept with
  | description text =>
    have hone : OneLine (withoutQuotes text) := OneLine.withoutQuotes (Significant.oneLine h)
    have hsig := significant_quoted hone
    have hfold : foldedArgument? "name".toList
        ("name ".toList ++ quoted (withoutQuotes text)) = some (quoted (withoutQuotes text)) :=
      foldedArgument?_of_afterBlank rfl hsig.trimmed hsig.ne_nil
    have hline : PortStatement.ofLine? ("name ".toList ++ quoted (withoutQuotes text)) =
        some (.description (withoutQuotes text)) := by
      rw [PortStatement.ofLine?, hfold]
      exact congrArg (fun t => some (PortStatement.description t))
        (unquote_quoted (quote_notMem_withoutQuotes text))
    have hread : (Block.port id).read ("name ".toList ++ quoted (withoutQuotes text)) =
        match PortStatement.ofLine? ("name ".toList ++ quoted (withoutQuotes text)) with
        | some statement => (some (.inPort id statement), .port id)
        | none => (none, .port id) := rfl
    rw [hline] at hread
    exact Block.readAll_singleton hread
  | power enabled => cases enabled <;> rfl
  | shutdown => rfl

theorem readAll_kept {id : Text} {kept : List KeptStatement} (h : ∀ k ∈ kept, k.Plain) :
    (Block.port id).readAll ((kept.flatMap keptLines).map Line.text) =
      ((kept.flatMap keptStatements).map (.inPort id), .port id) := by
  induction kept with
  | nil => rfl
  | cons k kept ih =>
    rw [List.flatMap_cons, List.map_append, List.flatMap_cons, List.map_append]
    exact Block.readAll_append_of (readAll_keptLines (h k (by simp)))
      (ih fun j hj => h j (by simp [hj]))

/-- The block of a port is read as its actions, and ends where it was written to end. -/
theorem readAll_portBlock {port : Port} (hid : Decimal.isNumber port.id = true)
    (hkept : ∀ k ∈ port.kept, k.Plain) :
    Block.none.readAll ((portBlock port).map Line.text) = (portActions port, .none) := by
  have hheader : Block.none.readAll ["interface ".toList ++ port.id] =
      ([.openPort port.id], .port port.id) := Block.readAll_singleton (read_portHeader hid)
  have hexit : (Block.port port.id).readAll ["exit".toList] = ([], .none) := rfl
  have hall := Block.readAll_append_of (Block.readAll_append_of hheader (readAll_kept hkept)) hexit
  rw [portBlock, portActions]
  simp only [List.map_append, List.map_cons, List.map_nil, Line.text]
  simpa using hall

structure WritablePort (port : Port) : Prop where
  id : Decimal.isNumber port.id = true
  kept : ∀ k ∈ port.kept, k.Plain

/-- The values that a written network needs in order to be read back. -/
structure WritableNetwork (network : Network) : Prop where
  device : ∀ statement ∈ network.device, statement.Plain
  vlans : ∀ vlan ∈ network.vlans.values, WritableVlan vlan
  ports : ∀ port ∈ network.ports.values, WritablePort port

structure LegibleNetwork (network : Network) : Prop where
  device : ∀ statement ∈ network.device, statement.Plain
  vlans : ∀ vlan ∈ network.vlans.values, LegibleVlan vlan
  ports : ∀ port ∈ network.ports.values, WritablePort port

theorem WritableNetwork.legible {network : Network} (h : WritableNetwork network) :
    LegibleNetwork network where
  device := h.device
  vlans vlan hvlan := (h.vlans vlan hvlan).legible
  ports := h.ports

theorem significant_deviceLine {statement : DeviceStatement} (h : statement.Plain) {line : Text}
    (hline : deviceLine? statement = some line) : Significant line := by
  cases statement with
  | hostname name =>
    cases hline
    exact Significant.append h (by decide) (by decide)
  | community name access =>
    cases hline
    have hone : OneLine name := h
    have hlevel : Significant (communityLevel access) := by
      rw [communityLevel]
      split <;> exact significant_of_ends (by decide) (by decide) (by decide)
    have hfront : OneLine ("snmp-server community ".toList ++ quoted name) :=
      OneLine.append (by decide) hone.quoted
    rw [List.append_cons]
    exact hlevel.append rfl (hfront.append (by decide))
  | location text =>
    cases hline
    exact Significant.append (significant_quoted (OneLine.withoutQuotes (Significant.oneLine h)))
      (by decide) (by decide)
  | spanningTree mode =>
    rw [deviceLine?] at hline
    split at hline
    · cases hline
      exact significant_of_ends (by decide) (by decide) (by decide)
    · cases hline

theorem significant_portList {keyword : String} {ports : OrderedSet}
    (h : ∀ port ∈ ports.toList, Decimal.isNumber port = true)
    (hkeyword : Significant keyword.toList) :
    ∀ line ∈ portList keyword ports, Significant line.text := by
  intro line hline
  rw [portList] at hline
  cases hports : ports.toList with
  | nil => simp [hports] at hline
  | cons port rest =>
    rw [hports] at hline h
    obtain rfl := List.mem_singleton.mp hline
    have hlist := significant_joinWith (List.cons_ne_nil port rest) h
    rw [Line.text, List.append_cons]
    refine hlist.append ?_ (hkeyword.oneLine.append (by decide))
    obtain ⟨c, rest, hcons⟩ := List.exists_cons_of_ne_nil hkeyword.ne_nil
    have hc := hkeyword.trimmed.first c (by rw [hcons]; rfl)
    simp [hcons, hc]

theorem significant_vlanBlock {vlan : Vlan} (h : LegibleVlan vlan) (profile : SiteProfile) :
    ∀ line ∈ vlanBlock profile vlan, Significant line.text := by
  intro line hline
  have hmem := List.mem_map_of_mem (f := Line.text) hline
  rw [vlanBlock_text] at hmem
  simp only [List.append_assoc, List.mem_append, List.mem_singleton] at hmem
  rcases hmem with hid | hname | huntagged | htagged | hvoice | haddress | hexit
  · rw [hid]
    exact (Decimal.significant_of_isNumber h.id).append (by decide) (by decide)
  · obtain ⟨name, hname', hline'⟩ := Option.map_eq_some_iff.mp (Option.mem_toList.mp hname)
    rw [← hline']
    exact (significant_quoted (h.name name hname')).append (by decide) (by decide)
  · obtain ⟨l, hl, hline'⟩ := List.mem_map.mp huntagged
    rw [← hline']
    exact significant_portList h.untagged (significant_of_ends (by decide) (by decide) (by decide)) l hl
  · obtain ⟨l, hl, hline'⟩ := List.mem_map.mp htagged
    rw [← hline']
    exact significant_portList h.tagged (significant_of_ends (by decide) (by decide) (by decide)) l hl
  · obtain ⟨l, hl, hline'⟩ := List.mem_map.mp hvoice
    rw [← hline']
    split at hl
    · rw [List.mem_singleton.mp hl]
      exact significant_of_ends (by decide) (by decide) (by decide)
    · cases hl
  · rw [haddress]
    cases haddr : vlan.address with
    | none => exact significant_of_ends (by decide) (by decide) (by decide)
    | some text => exact (h.address text haddr).append (by decide) (by decide)
  · rw [hexit]
    exact significant_of_ends (by decide) (by decide) (by decide)

theorem significant_keptLines {kept : KeptStatement} (h : kept.Plain) :
    ∀ line ∈ keptLines kept, Significant line.text := by
  intro line hline
  cases kept with
  | description text =>
    rw [List.mem_singleton.mp hline]
    exact (significant_quoted (OneLine.withoutQuotes (Significant.oneLine h))).append
      (by decide) (by decide)
  | power enabled =>
    cases enabled <;> rw [List.mem_singleton.mp hline] <;>
      exact significant_of_ends (by decide) (by decide) (by decide)
  | shutdown =>
    rcases List.mem_pair.mp hline with rfl | rfl <;>
      exact significant_of_ends (by decide) (by decide) (by decide)

theorem significant_portBlock {port : Port} (h : WritablePort port) :
    ∀ line ∈ portBlock port, Significant line.text := by
  intro line hline
  rw [portBlock, List.mem_append, List.mem_append, List.mem_singleton, List.mem_singleton,
    List.mem_flatMap] at hline
  rcases hline with (rfl | ⟨kept, hkept, hline⟩) | rfl
  · exact (Decimal.significant_of_isNumber h.id).append (by decide) (by decide)
  · exact significant_keptLines (h.kept kept hkept) line hline
  · exact significant_of_ends (by decide) (by decide) (by decide)

/-- The lines of a configuration after the warning. -/
theorem significant_body {network : Network} (h : LegibleNetwork network) (profile : SiteProfile) :
    ∀ line ∈ (network.device.filterMap deviceLine?).map Line.flush ++
      network.vlans.values.flatMap (vlanBlock profile) ++ network.ports.values.flatMap portBlock,
      Significant line.text := by
  intro line hline
  rw [List.mem_append, List.mem_append, List.mem_map, List.mem_flatMap, List.mem_flatMap] at hline
  rcases hline with (⟨text, htext, rfl⟩ | ⟨vlan, hvlan, hline⟩) | ⟨port, hport, hline⟩
  · obtain ⟨statement, hs, htext⟩ := List.mem_filterMap.mp htext
    exact significant_deviceLine (h.device statement hs) htext
  · exact significant_vlanBlock (h.vlans vlan hvlan) profile line hline
  · exact significant_portBlock (h.ports port hport) line hline

/-- What a reader sees of the warning means nothing to it. -/
theorem readAll_warning :
    Block.none.readAll ((warning.map Line.flush).flatMap fun line =>
      significantLines (line.render indent)) = ([], .none) := by
  decide +kernel

theorem readAll_device {device : List DeviceStatement} (h : ∀ s ∈ device, s.Plain) :
    Block.none.readAll (device.filterMap deviceLine?) = (device.flatMap deviceActions, .none) := by
  have hlines : device.filterMap deviceLine? =
      device.flatMap fun statement => (deviceLine? statement).toList := by
    rw [List.filterMap_eq_flatMap_toList]
  rw [hlines]
  exact readAll_flatMap fun statement hs => readAll_deviceLine (h statement hs)

/-- The actions of a written network. -/
def writtenActions (network : Network) (profile : SiteProfile) : List Action :=
  network.device.flatMap deviceActions ++ network.vlans.values.flatMap (vlanActions profile) ++
    network.ports.values.flatMap portActions

theorem actions_write {network : Network} (h : WritableNetwork network) (profile : SiteProfile) :
    actions (write network profile) = writtenActions network profile := by
  have hvlans : Block.none.readAll
      ((network.vlans.values.flatMap (vlanBlock profile)).map Line.text) =
        (network.vlans.values.flatMap (vlanActions profile), .none) := by
    rw [List.map_flatMap]
    exact readAll_flatMap fun vlan hvlan => readAll_vlanBlock (h.vlans vlan hvlan) profile
  have hports : Block.none.readAll ((network.ports.values.flatMap portBlock).map Line.text) =
      (network.ports.values.flatMap portActions, .none) := by
    rw [List.map_flatMap]
    exact readAll_flatMap fun port hport =>
      readAll_portBlock (h.ports port hport).id (h.ports port hport).kept
  have hlines := @Outline.significantLines_render_of_significant indent _
    (significant_body h.legible profile)
  rw [Outline.significantLines_render] at hlines
  have hall := Block.readAll_append_of readAll_warning (Block.readAll_append_of
    (Block.readAll_append_of (readAll_device h.device) hvlans) hports)
  rw [actions, write, outline, writtenActions, Outline.significantLines_render, List.append_assoc,
    List.append_assoc, List.flatMap_append, ← List.append_assoc, hlines]
  simpa [Function.comp_def, Line.text] using congrArg Prod.fst hall

end ProCurve

end SwitchDialects
