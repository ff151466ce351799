import SwitchDialects.Proofs.Ios.Printed
import SwitchDialects.Proofs.Ios.Wording
import SwitchDialects.Proofs.ProCurve.Blocks

/-!
# The state of ports in two writers

AOS-CX is told what the fields of a port hold after the last statement, and ProCurve is told every
kept statement again. The two agree on whether the port is shut and supplies power as long as the
statements that decide it are among those that are kept, and as long as power is not turned on again
in a port that is shut.
-/

namespace SwitchDialects

open Text

/-- Whether a statement of a written block is about power. -/
def isPowerLine (t : Text) : Bool :=
  t = "power-over-ethernet".toList ∨ t = "no power-over-ethernet".toList

/-- The last statement about power in a block. -/
def lastPower? (block : List Text) : Option Text := (block.filter isPowerLine).getLast?

namespace Ios.StateWord

def isShutdown : StateWord → Bool
  | shut | opened => true
  | _ => false

def isPower : StateWord → Bool
  | opened => false
  | _ => true

/-- Whether a line turns power on or off and is kept for a writer that repeats it. -/
def isKept : StateWord → Bool
  | shut | never | auto => true
  | _ => false

def shutdownSetting : StateWord → Setting
  | shut => .on
  | _ => .off

def powerSetting : StateWord → Setting
  | auto | otherMode => .on
  | _ => .off

/-- The statement about power that a kept line is repeated as. -/
def powerText : StateWord → Text
  | auto => "power-over-ethernet".toList
  | _ => "no power-over-ethernet".toList

theorem powerText_eq_off_iff (word : StateWord) :
    word.powerText = "no power-over-ethernet".toList ↔ word ≠ .auto := by
  cases word <;> decide

theorem isPower_of_isKept (word : StateWord) (h : word.isKept = true) : word.isPower = true := by
  cases word <;> first | rfl | cases h

end Ios.StateWord

namespace Ios.PortStatement

/-- What a statement keeps. -/
def keeps : PortStatement → List KeptStatement
  | .description text => [.description text]
  | .power enabled true => [.power enabled]
  | .shut => [.shutdown]
  | _ => []

theorem shutdown_apply (statement : PortStatement) (port : Port) :
    some (statement.apply port).shutdown =
      ((statement.stateWord?.filter (·.isShutdown)).map (·.shutdownSetting)).or
        (some port.shutdown) := by
  cases statement with
  | trunk vlans => rw [apply, foldl_addTrunkVlan]; rfl
  | power enabled kept => cases enabled <;> cases kept <;> rfl
  | _ => rfl

theorem power_apply (statement : PortStatement) (port : Port) :
    some (statement.apply port).power =
      ((statement.stateWord?.filter (·.isPower)).map (·.powerSetting)).or (some port.power) := by
  cases statement with
  | trunk vlans => rw [apply, foldl_addTrunkVlan]; rfl
  | power enabled kept => cases enabled <;> cases kept <;> rfl
  | _ => rfl

theorem kept_apply (statement : PortStatement) (port : Port) :
    (statement.apply port).kept = port.kept ++ statement.keeps := by
  cases statement with
  | trunk vlans => rw [apply, foldl_addTrunkVlan]; simp [keeps]
  | power enabled kept => cases kept <;> simp [apply, keeps, Port.keep]
  | _ => simp [apply, keeps, Port.keep]

/-- Of what is written for a statement at most one line is about power. -/
theorem filter_isPowerLine_keeps {statement : PortStatement}
    (hkept : statement ≠ .power false false) :
    (statement.keeps.flatMap ProCurve.keptTexts).filter isPowerLine =
      ((statement.stateWord?.filter (·.isKept)).map (·.powerText)).toList := by
  cases statement with
  | power enabled kept =>
    cases enabled <;> cases kept <;> first | rfl | exact absurd rfl hkept
  | _ => rfl

theorem shutdown_mem_keeps {statement : PortStatement} :
    .shutdown ∈ statement.keeps ↔ statement.stateWord? = some .shut := by
  cases statement with
  | power enabled kept => cases enabled <;> cases kept <;> simp [keeps, stateWord?]
  | _ => simp [keeps, stateWord?]

end Ios.PortStatement

/-- A mode that turns power off is kept. -/
theorem Ios.ne_power_off {text port : Text} {statement : Ios.PortStatement}
    (h : statement ∈ Ios.statementsOf port (Ios.actions text)) :
    statement ≠ .power false false := by
  rw [Ios.statementsOf_read] at h
  obtain ⟨line, -, hread⟩ := List.mem_filterMap.mp h
  refine Ios.PortStatement.reading (P := (· ≠ .power false false)) hread nofun nofun nofun nofun
    nofun nofun (fun mode _ hsame => ?power) nofun nofun nofun
  obtain ⟨hnever, hkept⟩ := Ios.PortStatement.power.inj hsame
  rw [Bool.not_eq_eq_eq_not, Bool.not_false] at hnever
  rw [hnever] at hkept
  cases hkept

/-- The statements about power in the ProCurve block of a port repeat those that are kept. -/
theorem filter_isPowerLine_portMembers {record : Port} {statements : List Ios.PortStatement}
    (kept : record.kept = statements.flatMap (·.keeps))
    (off : ∀ statement ∈ statements, statement ≠ .power false false) :
    (ProCurve.portMembers record).filter isPowerLine =
      ((statements.filterMap (·.stateWord?)).filter (·.isKept)).map (·.powerText) := by
  have hexit : ["exit".toList].filter isPowerLine = [] := rfl
  rw [ProCurve.portMembers, List.filter_append, hexit, List.append_nil, kept]
  clear kept
  induction statements with
  | nil => rfl
  | cons s statements ih =>
    rw [List.flatMap_cons, List.flatMap_append, List.filter_append,
      Ios.PortStatement.filter_isPowerLine_keeps (off s (by simp)),
      ih fun t ht => off t (by simp [ht])]
    cases hword : s.stateWord? with
    | none => simp [hword]
    | some word =>
      rw [List.filterMap_cons_some hword, List.filter_cons, Option.filter_some]
      split
      · rfl
      · rfl

theorem disable_mem_keptTexts {kept : KeptStatement} :
    "disable".toList ∈ ProCurve.keptTexts kept ↔ kept = .shutdown := by
  cases kept with
  | description text =>
    refine ⟨fun h => ?_, fun h => by cases h⟩
    cases List.mem_singleton.mp h
  | power enabled => cases enabled <;> decide
  | shutdown => decide

/-- A port is disabled in ProCurve when any statement shuts it. -/
theorem disable_mem_portMembers {record : Port} {statements : List Ios.PortStatement}
    (kept : record.kept = statements.flatMap (·.keeps)) :
    "disable".toList ∈ ProCurve.portMembers record ↔
      .shut ∈ statements.filterMap (·.stateWord?) := by
  have hexit : "disable".toList ∉ ["exit".toList] := by decide
  rw [ProCurve.portMembers, List.mem_append, or_iff_left hexit, List.mem_flatMap, kept]
  simp only [disable_mem_keptTexts, exists_eq_right, List.mem_flatMap, List.mem_filterMap,
    Ios.PortStatement.shutdown_mem_keeps]

/-- A port whose state is what these lines say. -/
structure Port.StatedBy (words : List Ios.StateWord) (record : Port) : Prop where
  shutdown : record.shutdown =
    ((words.filter (·.isShutdown)).getLast?.map (·.shutdownSetting)).getD .off
  power : record.power =
    ((words.filter (·.isPower)).getLast?.map (·.powerSetting)).getD .unspecified
  disable : "disable".toList ∈ ProCurve.portMembers record ↔ .shut ∈ words
  lastPower : lastPower? (ProCurve.portMembers record) =
    (words.filter (·.isKept)).getLast?.map (·.powerText)

/-- What a line says reaches the field that it is about. -/
theorem foldl_setting {field : Port → Setting} {about : Ios.StateWord → Bool}
    {setting : Ios.StateWord → Setting}
    (happly : ∀ (statement : Ios.PortStatement) (port : Port), some (field (statement.apply port)) =
      ((statement.stateWord?.filter about).map setting).or (some (field port)))
    (statements : List Ios.PortStatement) (port : Port) :
    field (statements.foldl (fun r s => s.apply r) port) =
      (((statements.filterMap (·.stateWord?)).filter about).getLast?.map setting).getD
        (field port) := by
  have hstep : ∀ r, ∀ s ∈ statements, some (field (s.apply r)) =
      ((s.stateWord?.filter about).map setting).or (some (field r)) := fun r s _ => happly s r
  have h := Replay.foldl_overwrite (f := fun r => some (field r)) hstep port
  rwa [Option.or_some, Option.some_inj, ← List.map_filterMap, ← List.filter_filterMap,
    List.getLast?_map] at h

theorem Ios.statedBy_read {text id : Text} {record : Port}
    (hget : (Ios.read text).ports.get? id = some record) :
    record.StatedBy (Ios.stateWords id text) := by
  rw [Ios.read_eq_replay, Ios.get?_ports_replay (Ios.ordered_actions text)] at hget
  split at hget
  · cases hget
    have hkept := Replay.foldl_append (f := Port.kept) (fun r s => s.kept_apply r)
      ({ id := id, shutdown := .off } : Port) (Ios.statementsOf id (Ios.actions text))
    rw [← Ios.filterMap_stateWord?]
    constructor
    case shutdown => exact foldl_setting (fun s r => s.shutdown_apply r) _ _
    case power => exact foldl_setting (fun s r => s.power_apply r) _ _
    case disable => exact disable_mem_portMembers hkept
    case lastPower =>
      rw [lastPower?, filter_isPowerLine_portMembers hkept fun _ => Ios.ne_power_off,
        List.getLast?_map]
  · cases hget

/-- The statements that AOS-CX has for the state of a port. -/
def stateTexts : List Text :=
  ["shutdown".toList, "power-over-ethernet".toList, "no power-over-ethernet".toList]

theorem ne_speedLine {t : Text} (ht : t ∈ stateTexts) (setting : Text) : speedLine setting ≠ t := by
  intro h
  simp only [speedLine] at h
  rcases List.mem_cons.mp ht with rfl | ht
  · split at h <;> cases h
  · rcases List.mem_pair.mp ht with rfl | rfl <;> split at h <;> cases h

theorem ne_description {t : Text} (ht : t ∈ stateTexts) (text : Text) :
    "description ".toList ++ text ≠ t := by
  rintro rfl
  rcases List.mem_cons.mp ht with h | h
  · cases h
  · rcases List.mem_pair.mp h with h | h <;> cases h

/-- Such a statement is written in AOS-CX for the shutdown setting of the port or for its power. -/
theorem mem_portLines_iff {t : Text} (ht : t ∈ stateTexts) (source : Dialect)
    (profile : SiteProfile) (port : Port) :
    t ∈ AosCx.portLines source profile port ↔
      AosCx.shutdownLine? port.shutdown = some t ∨ port.powerLine? = some t := by
  have htrust : t ∉ (if port.trustsMarking then ["qos trust cos".toList] else []) := by
    split
    · exact (by decide : ∀ t ∈ stateTexts, t ∉ ["qos trust cos".toList]) t ht
    · simp
  have hmembership : t ∉ AosCx.membershipLines (port.membership source profile) := by
    intro hmem
    have hvlan := (by decide : ∀ t ∈ stateTexts, "vlan ".toList.isPrefixOf t = false) t ht
    rw [AosCx.isPrefixOf_membershipLines t hmem] at hvlan
    cases hvlan
  simp only [AosCx.portLines, List.mem_append, Option.mem_toList, Option.map_eq_some_iff, htrust,
    hmembership, ne_speedLine ht, ne_description ht, and_false, exists_false, or_false]

theorem shutdown_mem_portLines_iff (source : Dialect) (profile : SiteProfile) (port : Port) :
    "shutdown".toList ∈ AosCx.portLines source profile port ↔ port.shutdown = .on := by
  have hpower : port.powerLine? ≠ some "shutdown".toList := by
    rw [Port.powerLine?]
    split <;> simp
  rw [mem_portLines_iff (by decide), or_iff_left hpower]
  cases port.shutdown <;> simp [AosCx.shutdownLine?]

theorem powered_mem_portLines_iff (source : Dialect) (profile : SiteProfile) (port : Port) :
    "power-over-ethernet".toList ∈ AosCx.portLines source profile port ↔
      port.powerOutput = .on := by
  have hshutdown : AosCx.shutdownLine? port.shutdown ≠ some "power-over-ethernet".toList := by
    cases port.shutdown <;> simp [AosCx.shutdownLine?]
  rw [mem_portLines_iff (by decide), or_iff_right hshutdown, Port.powerLine?]
  cases port.powerOutput <;> simp

theorem unpowered_mem_portLines_iff (source : Dialect) (profile : SiteProfile) (port : Port) :
    "no power-over-ethernet".toList ∈ AosCx.portLines source profile port ↔
      port.powerOutput = .off := by
  have hshutdown : AosCx.shutdownLine? port.shutdown ≠ some "no power-over-ethernet".toList := by
    cases port.shutdown <;> simp [AosCx.shutdownLine?]
  rw [mem_portLines_iff (by decide), or_iff_right hshutdown, Port.powerLine?]
  cases port.powerOutput <;> simp

/-- A port supplies no power if it was turned off or if the port is shut. -/
theorem powerOutput_eq_off_iff {port : Port} :
    port.powerOutput = .off ↔ port.power = .off ∨ port.shutdown = .on := by
  cases hpower : port.power <;> cases hshut : port.shutdown <;>
    simp [Port.powerOutput, hpower, hshut]

theorem power_of_powerOutput {port : Port} (h : port.powerOutput = .on) : port.power = .on := by
  cases hpower : port.power <;> cases hshut : port.shutdown <;>
    simp [Port.powerOutput, hpower, hshut] at h <;> rfl

/-- What two blocks, one in each dialect, say of the state of a port about which the lines said
this. -/
structure StateAgrees (words : List Ios.StateWord) (proCurve aosCx : List Text) : Prop where
  disabled_of_shut : "shutdown".toList ∈ aosCx → "disable".toList ∈ proCurve
  /-- ProCurve is not told that a port is no longer shut. -/
  shut_of_disabled : "disable".toList ∈ proCurve →
    ("shutdown".toList ∈ aosCx ↔ (words.filter (·.isShutdown)).getLast? ≠ some .opened)
  /-- Power that is turned on in a port that is shut counts for ProCurve. -/
  unpowered : "no power-over-ethernet".toList ∈ aosCx →
    (lastPower? proCurve = some "no power-over-ethernet".toList ↔
      ¬ ((words.filter (·.isShutdown)).getLast? = some .shut ∧
        (words.filter (·.isKept)).getLast? = some .auto))
  /-- Power that is turned on again without being kept does not. -/
  powered : "power-over-ethernet".toList ∈ aosCx →
    (lastPower? proCurve ≠ some "no power-over-ethernet".toList ↔
      ¬ ((words.filter (·.isPower)).getLast? = some .otherMode ∧
        ((words.filter (·.isKept)).getLast? = some .never ∨
          (words.filter (·.isKept)).getLast? = some .shut)))

namespace Port.StatedBy

variable {record : Port} {words : List Ios.StateWord}

/-- The last line about the shutting of a port decides it. -/
theorem shutdown_eq_on_iff (h : record.StatedBy words) :
    record.shutdown = .on ↔ (words.filter (·.isShutdown)).getLast? = some .shut := by
  rw [h.shutdown]
  cases hlast : (words.filter (·.isShutdown)).getLast? with
  | none => simp
  | some word => cases word <;> simp [Ios.StateWord.shutdownSetting]

theorem power_eq_off_iff (h : record.StatedBy words) :
    record.power = .off ↔ (words.filter (·.isPower)).getLast? = some .never ∨
      (words.filter (·.isPower)).getLast? = some .shut := by
  rw [h.power]
  cases hlast : (words.filter (·.isPower)).getLast? with
  | none => simp
  | some word =>
    have hpower := (List.mem_filter.mp (List.mem_of_getLast? hlast)).2
    cases word with
    | opened => cases hpower
    | _ => simp [Ios.StateWord.powerSetting]

theorem power_eq_on_iff (h : record.StatedBy words) :
    record.power = .on ↔ (words.filter (·.isPower)).getLast? = some .auto ∨
      (words.filter (·.isPower)).getLast? = some .otherMode := by
  rw [h.power]
  cases hlast : (words.filter (·.isPower)).getLast? with
  | none => simp
  | some word => cases word <;> simp [Ios.StateWord.powerSetting]

/-- ProCurve is told last that there is no power if the last line that is kept turns it off. -/
theorem lastPower_eq_off_iff (h : record.StatedBy words) :
    lastPower? (ProCurve.portMembers record) = some "no power-over-ethernet".toList ↔
      (words.filter (·.isKept)).getLast? = some .never ∨
        (words.filter (·.isKept)).getLast? = some .shut := by
  rw [h.lastPower]
  cases hlast : (words.filter (·.isKept)).getLast? with
  | none => simp
  | some word =>
    have hkept := (List.mem_filter.mp (List.mem_of_getLast? hlast)).2
    rw [Option.map_some, Option.some_inj, Ios.StateWord.powerText_eq_off_iff]
    cases word with
    | opened | otherMode => cases hkept
    | _ => simp

theorem disabled_of_shut (h : record.StatedBy words) (hshut : record.shutdown = .on) :
    "disable".toList ∈ ProCurve.portMembers record := by
  have hlast := h.shutdown_eq_on_iff.mp hshut
  exact h.disable.mpr (List.mem_filter.mp (List.mem_of_getLast? hlast)).1

/-- Once some line shuts the port, the last line about this shuts it, too, or opens it. -/
theorem shut_of_disabled (h : record.StatedBy words)
    (hdisabled : "disable".toList ∈ ProCurve.portMembers record) :
    record.shutdown = .on ↔ (words.filter (·.isShutdown)).getLast? ≠ some .opened := by
  have hmem : .shut ∈ words.filter (·.isShutdown) :=
    List.mem_filter.mpr ⟨h.disable.mp hdisabled, rfl⟩
  obtain ⟨word, hlast⟩ := Option.isSome_iff_exists.mp
    (List.getLast?_isSome.mpr (List.ne_nil_of_mem hmem))
  have hword := (List.mem_filter.mp (List.mem_of_getLast? hlast)).2
  rw [h.shutdown_eq_on_iff, hlast]
  cases word with
  | shut | opened => simp
  | never | auto | otherMode => exact absurd hword (by decide)

theorem unpowered (h : record.StatedBy words) (hoff : record.power = .off ∨ record.shutdown = .on) :
    lastPower? (ProCurve.portMembers record) = some "no power-over-ethernet".toList ↔
      ¬ ((words.filter (·.isShutdown)).getLast? = some .shut ∧
        (words.filter (·.isKept)).getLast? = some .auto) := by
  rw [h.lastPower_eq_off_iff]
  constructor
  case mp =>
    rintro (hkept | hkept) ⟨-, hauto⟩
    · rw [hkept] at hauto
      cases hauto
    · rw [hkept] at hauto
      cases hauto
  case mpr =>
    intro hnot
    rcases hoff with hpower | hshut
    · -- the line that turned power off is kept
      rcases h.power_eq_off_iff.mp hpower with hlast | hlast
      · exact .inl (Replay.getLast?_filter_of_imp Ios.StateWord.isPower_of_isKept hlast rfl)
      · exact .inr (Replay.getLast?_filter_of_imp Ios.StateWord.isPower_of_isKept hlast rfl)
    · have hlast := h.shutdown_eq_on_iff.mp hshut
      have hmem : .shut ∈ words.filter (·.isKept) :=
        List.mem_filter.mpr ⟨(List.mem_filter.mp (List.mem_of_getLast? hlast)).1, rfl⟩
      obtain ⟨word, hkept⟩ := Option.isSome_iff_exists.mp
        (List.getLast?_isSome.mpr (List.ne_nil_of_mem hmem))
      have hword := (List.mem_filter.mp (List.mem_of_getLast? hkept)).2
      rw [hkept]
      cases word with
      | shut => exact .inr rfl
      | never => exact .inl rfl
      | auto => exact absurd ⟨hlast, hkept⟩ hnot
      | _ => cases hword

theorem powered (h : record.StatedBy words) (hon : record.power = .on) :
    lastPower? (ProCurve.portMembers record) ≠ some "no power-over-ethernet".toList ↔
      ¬ ((words.filter (·.isPower)).getLast? = some .otherMode ∧
        ((words.filter (·.isKept)).getLast? = some .never ∨
          (words.filter (·.isKept)).getLast? = some .shut)) := by
  rw [Ne, h.lastPower_eq_off_iff, not_iff_not]
  constructor
  case mp =>
    intro hkept
    rcases h.power_eq_on_iff.mp hon with hlast | hlast
    · -- the line that turned power on would be the last that is kept
      have hauto := Replay.getLast?_filter_of_imp Ios.StateWord.isPower_of_isKept hlast rfl
      rw [hauto] at hkept
      rcases hkept with hkept | hkept <;> cases hkept
    · exact ⟨hlast, hkept⟩
  case mpr => exact And.right

/-- The two writers agree on a record as the lines left it. -/
theorem agrees (h : record.StatedBy words) (source : Dialect) (profile : SiteProfile) :
    StateAgrees words (ProCurve.portMembers record)
      (AosCx.portLines source profile (record.withVoiceNative profile)) := by
  constructor
  case disabled_of_shut =>
    rw [shutdown_mem_portLines_iff, shutdown_withVoiceNative]
    exact h.disabled_of_shut
  case shut_of_disabled =>
    rw [shutdown_mem_portLines_iff, shutdown_withVoiceNative]
    exact h.shut_of_disabled
  case unpowered =>
    rw [unpowered_mem_portLines_iff, powerOutput_withVoiceNative, powerOutput_eq_off_iff]
    exact h.unpowered
  case powered =>
    rw [powered_mem_portLines_iff, powerOutput_withVoiceNative]
    exact fun houtput => h.powered (power_of_powerOutput houtput)

end Port.StatedBy

section

variable {text id : Text} {profile : SiteProfile} {record : Port}
  (hget : (Ios.read text).ports.get? id = some record)

include hget

/-- The block of a port in the ProCurve text. -/
theorem proCurve_block : Outline.blockOf ProCurve.indent (ProCurve.portHeader id)
      (Direction.iosToProCurve.translate text profile).output = ProCurve.portMembers record := by
  have keyed := Ios.keyed_read text
  have hdistinct : ((Ios.read text).ports.values.map Port.id).Nodup := by
    rw [OrderedMap.map_values_eq_keys keyed.ports]
    exact OrderedMap.nodup_keys _
  have hblock := ProCurve.blockOf_write (Ios.legible text) profile hdistinct
    (OrderedMap.mem_values_iff.mpr ⟨id, hget⟩)
  rw [keyed.ports id record hget] at hblock
  exact hblock

/-- The block of a port in the AOS-CX text. -/
theorem aosCx_block (hstem : OneLine profile.portStem) (hsite : OneLine profile.nativeVlan) :
    Outline.blockOf AosCx.indent (AosCx.portHeader profile id)
        (Direction.iosToAosCx.translate text profile).output =
      AosCx.portLines .ios profile (record.withVoiceNative profile) := by
  refine (AosCx.blockOf_write (Ios.fitting text) hstem hsite id).trans ?_
  rw [AosCx.membersUnder_prepare (Ios.keyed_read text), hget, Ios.source_read]
  rfl

end

/-- In the two texts written from an IOS configuration the blocks of a port agree on its state, but
for what is not kept. -/
theorem port_state_agrees (text : Text) {profile : SiteProfile} (hstem : OneLine profile.portStem)
    (hsite : OneLine profile.nativeVlan) {id : Text} (hid : id ∈ (Ios.read text).ports.keys) :
    StateAgrees (Ios.stateWords id text)
      (Outline.blockOf ProCurve.indent (ProCurve.portHeader id)
        (Direction.iosToProCurve.translate text profile).output)
      (Outline.blockOf AosCx.indent (AosCx.portHeader profile id)
        (Direction.iosToAosCx.translate text profile).output) := by
  obtain ⟨record, hget⟩ := OrderedMap.exists_get?_of_mem hid
  rw [proCurve_block hget, aosCx_block hget hstem hsite]
  exact (Ios.statedBy_read hget).agrees .ios profile

def shutPort : Text := "interface Gi0/1\n power inline auto\n shutdown\n!".toList

theorem shutPort_state_agrees :
    OneLine SiteProfile.default.portStem ∧ OneLine SiteProfile.default.nativeVlan ∧
      "1".toList ∈ (Ios.read shutPort).ports.keys ∧
      "shutdown".toList ∈ Outline.blockOf AosCx.indent (AosCx.portHeader .default "1".toList)
        (Direction.iosToAosCx.translate shutPort .default).output ∧
      StateAgrees (Ios.stateWords "1".toList shutPort)
        (Outline.blockOf ProCurve.indent (ProCurve.portHeader "1".toList)
          (Direction.iosToProCurve.translate shutPort .default).output)
        (Outline.blockOf AosCx.indent (AosCx.portHeader .default "1".toList)
          (Direction.iosToAosCx.translate shutPort .default).output) :=
  ⟨by decide, by decide, by decide +kernel, by decide +kernel,
    port_state_agrees shutPort (by decide) (by decide) (by decide +kernel)⟩

/-- A port that is shut and opened again, one that is shut and then supplied with power, and one
whose power is turned off and on again without the second being kept. -/
def reopenedPorts : Text :=
  ("interface Gi0/1\n shutdown\n no shutdown\n!\n" ++
    "interface Gi0/2\n shutdown\n power inline auto\n!\n" ++
    "interface Gi0/3\n power inline never\n power inline static\n!").toList

/-- Each of these ports is in one state for ProCurve and in another for AOS-CX. -/
theorem reopenedPorts_disagree :
    ("disable".toList ∈ Outline.blockOf ProCurve.indent (ProCurve.portHeader "1".toList)
          (Direction.iosToProCurve.translate reopenedPorts .default).output ∧
        "shutdown".toList ∉ Outline.blockOf AosCx.indent (AosCx.portHeader .default "1".toList)
          (Direction.iosToAosCx.translate reopenedPorts .default).output) ∧
      ("no power-over-ethernet".toList ∈
          Outline.blockOf AosCx.indent (AosCx.portHeader .default "2".toList)
            (Direction.iosToAosCx.translate reopenedPorts .default).output ∧
        lastPower? (Outline.blockOf ProCurve.indent (ProCurve.portHeader "2".toList)
          (Direction.iosToProCurve.translate reopenedPorts .default).output) =
            some "power-over-ethernet".toList) ∧
      ("power-over-ethernet".toList ∈
          Outline.blockOf AosCx.indent (AosCx.portHeader .default "3".toList)
            (Direction.iosToAosCx.translate reopenedPorts .default).output ∧
        lastPower? (Outline.blockOf ProCurve.indent (ProCurve.portHeader "3".toList)
          (Direction.iosToProCurve.translate reopenedPorts .default).output) =
            some "no power-over-ethernet".toList) := by
  decide +kernel

end SwitchDialects
