import SwitchDialects.Proofs.Ios.Sections
import SwitchDialects.Proofs.Layout

/-!
# Communities

What may be done under an SNMP community follows from the word right after its name. Every line of a
text that names one has its own line in the ProCurve configuration, in its place among those about
the device; read access is kept only by that word, and wherever else it stands the line that is
written gives write access.
-/

namespace SwitchDialects

open Text

/-- What a line says about a community: its name and the words that follow. -/
structure Community where
  name : Text
  options : List Text
deriving DecidableEq, Repr

namespace Community

def ofLine? (line : Text) : Option Community :=
  (argument? "snmp-server community".toList line).bind fun rest =>
    match words rest with
    | [] => none
    | name :: options => some ⟨name, options⟩

def statement (community : Community) : DeviceStatement :=
  .community (withoutQuotes community.name) community.options.head?

def written (community : Community) : Text :=
  "snmp-server community ".toList ++ quoted (withoutQuotes community.name) ++
    ' ' :: communityLevel community.options.head?

def isLine (line : Text) : Bool := "snmp-server community ".toList.isPrefixOf line

theorem atMargin_of_isLine {line : Text} (h : isLine line = true) : atMargin line = true := by
  obtain ⟨rest, rfl⟩ := List.isPrefixOf_iff_prefix.mp h
  rfl

@[simp] theorem isLine_written (community : Community) : isLine community.written = true :=
  List.isPrefixOf_iff_prefix.mpr ⟨_, (List.append_assoc ..).symm⟩

@[simp] theorem deviceLine?_statement (community : Community) :
    ProCurve.deviceLine? community.statement = some community.written := rfl

/-- The line for a statement names a community only if the statement is about one. -/
theorem isLine_deviceLine? {statement : DeviceStatement} {line : Text}
    (h : ProCurve.deviceLine? statement = some line) (hline : isLine line = true) :
    ∃ name access, statement = .community name access := by
  cases statement with
  | community name access => exact ⟨name, access, rfl⟩
  | spanningTree mode =>
    rw [ProCurve.deviceLine?] at h
    split at h <;> cases h
    cases hline
  | _ =>
    cases h
    cases hline

theorem deviceStatement?_eq (line : Text) :
    Ios.deviceStatement? line =
      ((argument? "hostname".toList line).map .hostname <|>
      (if line = "spanning-tree mode rapid-pvst".toList then
        some (.spanningTree "rapid-pvst".toList) else none) <|>
      (ofLine? line).map statement <|>
      (argument? "snmp-server location".toList line).map .location) := by
  have hcommunity : (ofLine? line).map statement =
      (argument? "snmp-server community".toList line).bind fun rest =>
        match words rest with
        | [] => none
        | name :: options => some (.community (withoutQuotes name) options.head?) := by
    rw [ofLine?, Option.map_bind]
    refine congrArg _ (funext fun rest => ?_)
    rw [Function.comp_apply]
    cases words rest <;> rfl
  rw [hcommunity]
  rfl

/-- A line that names a community makes no other statement. -/
theorem deviceStatement?_of_ofLine? {line : Text} {community : Community}
    (h : ofLine? line = some community) :
    Ios.deviceStatement? line = some community.statement := by
  obtain ⟨rest, hrest, _⟩ := Option.bind_eq_some_iff.mp h
  rw [deviceStatement?_eq, h]
  obtain ⟨more, rfl⟩ := exists_eq_append_of_argument? hrest
  rfl

theorem ofLine?_of_deviceStatement? {line name : Text} {access : Option Text}
    (h : Ios.deviceStatement? line = some (.community name access)) :
    ∃ community, ofLine? line = some community := by
  rw [deviceStatement?_eq] at h
  rcases of_orElse_eq_some h with h | h
  · simp at h
  rcases of_orElse_eq_some h with h | h
  · split at h <;> cases h
  rcases of_orElse_eq_some h with h | h
  · obtain ⟨community, hcommunity, _⟩ := Option.map_eq_some_iff.mp h
    exact ⟨community, hcommunity⟩
  · simp at h

/-- The line of ProCurve for a line of IOS about the device. -/
def writtenFor? (line : Text) : Option Text :=
  (Ios.deviceStatement? line).bind ProCurve.deviceLine?

theorem writtenFor?_of_ofLine? {line : Text} {community : Community}
    (h : ofLine? line = some community) : writtenFor? line = some community.written := by
  rw [writtenFor?, deviceStatement?_of_ofLine? h, Option.bind_some, deviceLine?_statement]

/-- The line that is written names a community if and only if the line that is read does. -/
theorem filter_writtenFor? (line : Text) :
    (writtenFor? line).filter isLine = (ofLine? line).map written := by
  cases hcommunity : ofLine? line with
  | some community =>
    rw [writtenFor?_of_ofLine? hcommunity]
    simp
  | none =>
    rw [Option.map_none, Option.filter_eq_none_iff]
    intro out hout hline
    obtain ⟨statement, hstatement, hdevice⟩ := Option.bind_eq_some_iff.mp hout
    obtain ⟨name, access, rfl⟩ := isLine_deviceLine? hdevice hline
    obtain ⟨community, hsome⟩ := ofLine?_of_deviceStatement? hstatement
    rw [hcommunity] at hsome
    cases hsome

theorem level_suffix (community : Community) :
    communityLevel community.options.head? <:+ community.written :=
  (List.suffix_cons ' ' _).trans (List.suffix_append _ _)

theorem operator_suffix {community : Community}
    (h : community.options.head? = some "RO".toList) : "Operator".toList <:+ community.written := by
  have hend := community.level_suffix
  rwa [communityLevel, if_pos h] at hend

theorem manager_suffix {community : Community}
    (h : community.options.head? ≠ some "RO".toList) : "Manager".toList <:+ community.written := by
  have hend := community.level_suffix
  rwa [communityLevel, if_neg h] at hend

theorem not_manager_suffix {line : Text} (h : "Operator".toList <:+ line) :
    ¬ "Manager".toList <:+ line := by
  intro hmanager
  exact absurd (List.suffix_of_suffix_length_le hmanager h (by decide)) (by decide)

end Community

section

variable (network : Network) (profile : SiteProfile) (statements : List Text)

/-- After the warning the lines about the device come first. -/
theorem prefix_lines_entries : ProCurve.warning ++ statements <+:
    (ProCurve.entries network profile statements).flatMap (Entry.lines ProCurve.indent) := by
  rw [ProCurve.entries, List.flatMap_append, List.flatMap_append, Entry.flatMap_lines_singles,
    List.append_assoc]
  exact List.prefix_append _ _

/-- No other lines name a community. -/
theorem filter_lines_entries :
    ((ProCurve.entries network profile statements).flatMap (Entry.lines ProCurve.indent)).filter
      Community.isLine = statements.filter Community.isLine := by
  have hwarning : ProCurve.warning.filter Community.isLine = [] := by decide
  have hvlans : (network.vlans.values.map (vlanHeader ·.id)).filter Community.isLine = [] :=
    List.filter_eq_nil_iff.mpr (List.forall_mem_map.mpr fun _ _ => Bool.false_ne_true)
  have hports : (network.ports.values.map (ProCurve.portHeader ·.id)).filter Community.isLine =
      [] := List.filter_eq_nil_iff.mpr (List.forall_mem_map.mpr fun _ _ => Bool.false_ne_true)
  rw [Entry.filter_lines_of_imp (by decide) fun _ => Community.atMargin_of_isLine,
    ProCurve.map_head_entries, List.filter_append, List.filter_append, List.filter_append,
    List.filter_append, hwarning, hvlans, hports]
  simp

end

/-- The lines about the device are those that the lines of the text ask for, in order. -/
theorem splitOn_output (text : Text) (profile : SiteProfile) :
    (Direction.iosToProCurve.translate text profile).output.splitOn '\n' =
      (ProCurve.entries (Ios.read text) profile
        ((significantLines text).filterMap Community.writtenFor?)).flatMap
          (Entry.lines ProCurve.indent) := by
  have written := ProCurve.written (Ios.legible text) profile
  have hdevice : (Ios.read text).device.filterMap ProCurve.deviceLine? =
      (significantLines text).filterMap Community.writtenFor? := by
    rw [Ios.device_read, List.filterMap_filterMap]
    rfl
  rw [← hdevice, Direction.output_translate]
  exact (congrArg (List.splitOn '\n') written.output_eq).trans
    (Entry.splitOn_render written.ne_nil written.oneLine)

/-- How the communities of a text stand in what is written for it. -/
structure CommunitiesWritten (lines output : List Text) : Prop where
  inPlace : ProCurve.warning ++ lines.filterMap Community.writtenFor? <+: output
  oneEach : output.filter Community.isLine =
    (lines.filterMap Community.ofLine?).map Community.written
  line : ∀ line ∈ lines, ∀ community, Community.ofLine? line = some community →
    Community.writtenFor? line = some community.written
  operator : ∀ community ∈ lines.filterMap Community.ofLine?,
    "Operator".toList <:+ community.written ↔ community.options.head? = some "RO".toList
  manager : ∀ community ∈ lines.filterMap Community.ofLine?,
    "Manager".toList <:+ community.written ↔ community.options.head? ≠ some "RO".toList

/-- Every line that names a community is written once and in its place among the lines about the
device. It is written with read access if the first word after the name is `RO`, and with write
access otherwise. -/
theorem communities_written (text : Text) (profile : SiteProfile) :
    CommunitiesWritten (significantLines text)
      ((Direction.iosToProCurve.translate text profile).output.splitOn '\n') := by
  rw [splitOn_output]
  constructor
  case inPlace => exact prefix_lines_entries ..
  case oneEach =>
    rw [filter_lines_entries, List.filter_filterMap, List.map_filterMap,
      funext Community.filter_writtenFor?]
  case line => exact fun line _ community => Community.writtenFor?_of_ofLine?
  case operator =>
    intro community _
    refine ⟨fun hoperator => ?_, Community.operator_suffix⟩
    by_contra hro
    exact Community.not_manager_suffix hoperator (Community.manager_suffix hro)
  case manager =>
    intro community _
    refine ⟨fun hmanager hro => ?_, Community.manager_suffix⟩
    exact Community.not_manager_suffix (Community.operator_suffix hro) hmanager

/-- A community that may only be read, under a view and an access list. -/
def viewedCommunity : Text := "snmp-server community public view v RO 10".toList

theorem viewedCommunity_escalated :
    Community.ofLine? viewedCommunity =
        some ⟨"public".toList, ["view".toList, "v".toList, "RO".toList, "10".toList]⟩ ∧
      ((Direction.iosToProCurve.translate viewedCommunity .default).output.splitOn '\n').filter
        Community.isLine = ["snmp-server community \"public\" Manager".toList] ∧
      ¬ "Operator".toList <:+ "snmp-server community \"public\" Manager".toList := by
  decide +kernel

end SwitchDialects
