import SwitchDialects.Proofs.Entries
import SwitchDialects.Proofs.ProCurve.Blocks

/-!
# The layout of a ProCurve configuration

After the warning each statement about the device has a line, each VLAN and each port is one entry,
and all of them stand in the order of the network. Where a value is written between quotes, no other
quote stands in its line.
-/

namespace SwitchDialects

open Text

/-- A statement about the device that has a line of its own in ProCurve, with quotes only around
its value. -/
def DeviceStatement.Canonical : DeviceStatement → Prop
  | .community name _ => '"' ∉ name
  | .spanningTree mode => mode = "rapid-pvst".toList
  | _ => True

namespace ProCurve

def listTexts (keyword : String) (ports : OrderedSet) : List Text :=
  (portList keyword ports).map Line.text

def vlanEntry (profile : SiteProfile) (vlan : Vlan) : Entry where
  head := vlanHeader vlan.id
  members := (vlan.name.map fun name => "name ".toList ++ quoted name).toList ++
    listTexts "untagged" vlan.untagged ++ listTexts "tagged" vlan.tagged ++
    (if vlan.isVoice profile then ["voice".toList] else []) ++
    [addressLine vlan.address, "exit".toList]

def portEntry (port : Port) : Entry where
  head := portHeader port.id
  members := portMembers port

def entries (network : Network) (profile : SiteProfile) (statements : List Text) : List Entry :=
  (warning ++ statements).map Entry.single ++ network.vlans.values.map (vlanEntry profile) ++
    network.ports.values.map portEntry

/-- The entries of a network, each of its statements, VLANs and ports once and in order. -/
def Entries (network : Network) (profile : SiteProfile) (list : List Entry) : Prop :=
  ∃ statements, network.device.map deviceLine? = statements.map some ∧
    list = entries network profile statements

theorem portList_eq (keyword : String) (ports : OrderedSet) :
    portList keyword ports = (listTexts keyword ports).map .member := by
  rw [listTexts, portList]
  split <;> rfl

theorem vlanBlock_eq (profile : SiteProfile) (vlan : Vlan) :
    vlanBlock profile vlan = Outline.block Entry.head Entry.members (vlanEntry profile vlan) := by
  have hname : (vlan.name.map fun name => Line.member ("name ".toList ++ quoted name)).toList =
      (vlan.name.map fun name => "name ".toList ++ quoted name).toList.map .member := by
    cases vlan.name <;> rfl
  have hvoice : (if vlan.isVoice profile then [Line.member "voice".toList] else []) =
      (if vlan.isVoice profile then ["voice".toList] else []).map .member := by
    split <;> rfl
  rw [vlanBlock, portList_eq, portList_eq, hname, hvoice, Outline.block, vlanEntry]
  simp only [List.map_append, List.append_assoc]
  cases vlan.address <;> rfl

variable {network : Network} {profile : SiteProfile}

/-- The outline of a network is that of its entries in order. -/
theorem outline_eq_entries (network : Network) (profile : SiteProfile) :
    outline network profile =
      Entry.outline (entries network profile (network.device.filterMap deviceLine?)) := by
  rw [outline, entries, Entry.outline_append, Entry.outline_append, Entry.outline_singles,
    List.map_append, Entry.outline, Entry.outline, List.flatMap_map, List.flatMap_map,
    funext (vlanBlock_eq profile), funext portBlock_eq]
  rfl

theorem map_head_entries (network : Network) (profile : SiteProfile) (statements : List Text) :
    (entries network profile statements).map Entry.head =
      (warning ++ statements) ++ network.vlans.values.map (vlanHeader ·.id) ++ [] ++
        network.ports.values.map (portHeader ·.id) := by
  simp only [entries, List.map_append, List.map_map, List.append_nil]
  exact congrArg (· ++ _ ++ _) (by simp [Entry.single, Function.comp_def])

theorem opensNone_warning : ∀ line ∈ warning, OpensNone line := by
  have hwarning : ∀ line ∈ warning, (atMargin line = true ∧ line ≠ []) ∧
      isVlanHeader line = false ∧ isPortHeader line = false := by decide
  intro line hline
  obtain ⟨hhead, hvlan, hport⟩ := hwarning line hline
  exact ⟨hhead, hvlan, hport⟩

theorem opensNone_deviceLine {statement : DeviceStatement} {line : Text}
    (h : deviceLine? statement = some line) : OpensNone line := by
  cases statement with
  | spanningTree mode =>
    rw [deviceLine?] at h
    split at h <;> cases h
    exact ⟨⟨rfl, by decide⟩, rfl, rfl⟩
  | _ =>
    cases h
    exact ⟨⟨rfl, by simp⟩, rfl, rfl⟩

theorem written (legible : LegibleNetwork network) (profile : SiteProfile) :
    Written indent network
      (entries network profile (network.device.filterMap deviceLine?)) (write network profile) where
  output_eq := by rw [write, outline_eq_entries]
  ne_nil := by simp [entries, warning]
  oneLine := outline_eq_entries network profile ▸ oneLine_outline legible profile
  headed := by
    rw [map_head_entries]
    refine headed_of_blocks (fun line hline => ?_) (.refl _) (by simp) (.refl _)
      fun id => ⟨id, rfl⟩
    rcases List.mem_append.mp hline with hline | hline
    · exact opensNone_warning line hline
    · obtain ⟨statement, _, hs⟩ := List.mem_filterMap.mp hline
      exact opensNone_deviceLine hs

/-- Every statement about the device has its line. -/
theorem entries_canonical (canonical : ∀ s ∈ network.device, s.Canonical) (profile : SiteProfile) :
    Entries network profile
      (entries network profile (network.device.filterMap deviceLine?)) := by
  refine ⟨_, ?_, rfl⟩
  rw [List.map_filterMap_some_eq_filter_map_isSome, eq_comm, List.filter_eq_self,
    List.forall_mem_map]
  intro s hs
  cases s with
  | spanningTree mode => simp [deviceLine?, show mode = _ from canonical _ hs]
  | _ => rfl

def isQuoting (line : Text) : Bool :=
  "   name ".toList.isPrefixOf line || "snmp-server community ".toList.isPrefixOf line ||
    "snmp-server location ".toList.isPrefixOf line

/-- No quote stands in a value that is quoted as it is. -/
structure QuoteFree (network : Network) : Prop where
  device : ∀ s ∈ network.device, s.Canonical
  vlans : ∀ vlan ∈ network.vlans.values, ∀ name, vlan.name = some name → '"' ∉ name

theorem count_quote_deviceLine {statement : DeviceStatement} (h : statement.Canonical) {line : Text}
    (hline : deviceLine? statement = some line) (hquoting : isQuoting line = true) :
    line.count '"' = 2 := by
  cases statement with
  | hostname name =>
    cases hline
    cases hquoting
  | spanningTree mode =>
    rw [deviceLine?] at hline
    split at hline <;> cases hline
    cases hquoting
  | community name access =>
    cases hline
    have hlevel : '"' ∉ communityLevel access := by
      rw [communityLevel]
      split <;> decide
    rw [List.count_append, List.count_append, count_quote_quoted h,
      List.count_cons_of_ne (by decide), List.count_eq_zero_of_not_mem hlevel]
    rfl
  | location text =>
    cases hline
    rw [List.count_append, count_quote_quoted_withoutQuotes]
    rfl

theorem isQuoting_listTexts {keyword : String} (h : keyword ∈ ["untagged", "tagged"])
    (ports : OrderedSet) :
    ∀ t ∈ listTexts keyword ports, isQuoting (List.replicate indent ' ' ++ t) = false := by
  intro t ht
  rw [listTexts, portList] at ht
  split at ht
  · cases ht
  · obtain rfl := List.mem_singleton.mp ht
    rcases List.mem_pair.mp h with rfl | rfl <;> rfl

theorem count_quote_vlanMember {vlan : Vlan}
    (h : ∀ name, vlan.name = some name → '"' ∉ name) {t : Text}
    (ht : t ∈ (vlanEntry profile vlan).members)
    (hquoting : isQuoting (List.replicate indent ' ' ++ t) = true) :
    (List.replicate indent ' ' ++ t).count '"' = 2 := by
  simp only [vlanEntry, List.mem_append, Option.mem_toList, Option.map_eq_some_iff,
    List.mem_pair] at ht
  rcases ht with (((⟨name, hname, rfl⟩ | ht) | ht) | ht) | rfl | rfl
  · rw [List.count_append, List.count_append, count_quote_quoted (h name hname)]
    rfl
  · simp [isQuoting_listTexts (by simp) _ t ht] at hquoting
  · simp [isQuoting_listTexts (by simp) _ t ht] at hquoting
  · split at ht
    · obtain rfl := List.mem_singleton.mp ht
      cases hquoting
    · cases ht
  · cases hvlan : vlan.address <;> rw [hvlan] at hquoting <;> cases hquoting
  · cases hquoting

theorem count_quote_portMember {port : Port} {t : Text} (ht : t ∈ portMembers port)
    (hquoting : isQuoting (List.replicate indent ' ' ++ t) = true) :
    (List.replicate indent ' ' ++ t).count '"' = 2 := by
  rw [portMembers, List.mem_append, List.mem_flatMap, List.mem_singleton] at ht
  rcases ht with ⟨kept, _, ht⟩ | rfl
  · rcases kept with text | (_ | _) | _
    case description =>
      obtain rfl := List.mem_singleton.mp ht
      rw [Line.text, List.count_append, List.count_append, count_quote_quoted_withoutQuotes]
      rfl
    case shutdown =>
      rcases List.mem_pair.mp ht with rfl | rfl <;> cases hquoting
    all_goals
      obtain rfl := List.mem_singleton.mp ht
      cases hquoting
  · cases hquoting

/-- Whatever is quoted stands between the only two quotes of its line. -/
theorem count_quote_of_quoting (free : QuoteFree network) {list : List Entry}
    (hlist : Entries network profile list) {line : Text}
    (hline : line ∈ list.flatMap (Entry.lines indent)) (hquoting : isQuoting line = true) :
    line.count '"' = 2 := by
  obtain ⟨statements, hstatements, rfl⟩ := hlist
  obtain ⟨entry, hentry, hline⟩ := List.mem_flatMap.mp hline
  simp only [entries, List.mem_append, List.mem_map] at hentry
  rw [Entry.lines, List.mem_cons, List.mem_map] at hline
  rcases hentry with (⟨head, hhead, rfl⟩ | ⟨vlan, hvlan, rfl⟩) | ⟨port, _, rfl⟩
  · obtain rfl | ⟨t, ht, rfl⟩ := hline
    · rcases hhead with hwarning | hwritten
      · have hsilent := (by decide : ∀ t ∈ warning, isQuoting t = false) line hwarning
        rw [hsilent] at hquoting
        cases hquoting
      · have hsome : some line ∈ network.device.map deviceLine? :=
          hstatements ▸ List.mem_map_of_mem hwritten
        obtain ⟨statement, hstatement, hdeclared⟩ := List.mem_map.mp hsome
        exact count_quote_deviceLine (free.device statement hstatement) hdeclared hquoting
    · cases ht
  · obtain rfl | ⟨t, ht, rfl⟩ := hline
    · cases hquoting
    · exact count_quote_vlanMember (free.vlans vlan hvlan) ht hquoting
  · obtain rfl | ⟨t, ht, rfl⟩ := hline
    · cases hquoting
    · exact count_quote_portMember ht hquoting

end ProCurve

end SwitchDialects
