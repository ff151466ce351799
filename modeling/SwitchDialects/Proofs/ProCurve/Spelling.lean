import SwitchDialects.Proofs.AosCx.Layout
import SwitchDialects.Proofs.ProCurve.Consistency
import SwitchDialects.Proofs.ProCurve.Fitting
import SwitchDialects.Translation

/-!
# Spellings of a port

A port is named in two ways: by the header of its block, and by the lists of the VLANs that it
belongs to. Lists give every number in its shortest form, but a header is kept as it is written,
with its leading zeros and in the digits of any script. So a port has one record exactly when its
headers write its number as all else does. Where they do not, its membership stands in one record
and all else that is said about it in another.
-/

namespace SwitchDialects

open Text

/-- The value of a digit of any script: its place in its run, where every ten start anew. -/
def digitValue (c : Char) : Nat :=
  ((decimalDigitRuns.find? fun (first, last) => first ≤ c.toNat && c.toNat ≤ last).map
    fun (first, _) => (c.toNat - first) % 10).getD 0

/-- The number that a run of digits of any script denotes. -/
def numberOf (digits : Text) : Nat := digits.foldl (fun n c => 10 * n + digitValue c) 0

example : numberOf "007".toList = 7 ∧ numberOf "٠٧".toList = 7 := by decide

theorem digitValue_of_isDigit {c : Char} (h : c.isDigit = true) :
    digitValue c = c.toNat - '0'.toNat := by
  simp only [Char.isDigit, Bool.and_eq_true, decide_eq_true_eq, UInt32.le_iff_toNat_le] at h
  have h48 : 48 ≤ c.toNat := h.1
  have h57 : c.toNat ≤ 57 := h.2
  have hzero : '0'.toNat = 48 := rfl
  simp only [digitValue, decimalDigitRuns, List.find?_cons, h48, h57, decide_true, Bool.and_self,
    Option.map_some, Option.getD_some, hzero]
  omega

theorem numberOf_of_isNumber {t : Text} (h : Decimal.isNumber t = true) :
    numberOf t = Decimal.value t :=
  List.foldl_ext _ _ _ fun n c hc => by
    rw [digitValue_of_isDigit ((Decimal.isDigit_of_isNumber h).2 c hc)]

@[simp] theorem numberOf_render (n : Nat) : numberOf (Decimal.render n) = n := by
  rw [numberOf_of_isNumber (Decimal.isNumber_render n), Decimal.value_render]

/-- A number in the digits of any script. -/
def IsNumeral (t : Text) : Prop := t ≠ [] ∧ ∀ c ∈ t, isDecimalDigit c = true

theorem isNumeral_of_isNumber {t : Text} (h : Decimal.isNumber t = true) : IsNumeral t :=
  ⟨(Decimal.isDigit_of_isNumber h).1,
    fun c hc => isDecimalDigit_of_isDigit ((Decimal.isDigit_of_isNumber h).2 c hc)⟩

namespace ProCurve

def Action.openedPort? : Action → Option Text
  | .openPort id => some id
  | _ => none

def Action.listedPorts : Action → List Text
  | .inVlan vlan statement => (Action.inVlan vlan statement).ports
  | _ => []

/-- The numbers of ports in the headers of a text, as they are written. -/
def headerPorts (text : Text) : List Text := (actions text).filterMap Action.openedPort?

/-- The numbers of ports in the lists of a text, as they are read. -/
def listedPorts (text : Text) : List Text := (actions text).flatMap Action.listedPorts

/-- Every header writes the number of its port as all else in the text does. -/
def SpeltAlike (text : Text) : Prop :=
  ∀ header ∈ headerPorts text, ∀ id, id ∈ headerPorts text ∨ id ∈ listedPorts text →
    numberOf id = numberOf header → id = header

theorem mem_headerPorts {text id : Text} : id ∈ headerPorts text ↔ .openPort id ∈ actions text := by
  rw [headerPorts, List.mem_filterMap]
  constructor
  · rintro ⟨a, ha, hopened⟩
    cases a with
    | openPort port =>
      cases hopened
      exact ha
    | _ => cases hopened
  · exact fun h => ⟨_, h, rfl⟩

/-- A statement in the block of a port stands under the header of this port. -/
theorem Block.openPort_mem {block : Block} {lines : List Text} {id : Text}
    {statement : PortStatement} (h : .inPort id statement ∈ (block.readAll lines).1) :
    block = .port id ∨ .openPort id ∈ (block.readAll lines).1 := by
  induction lines generalizing block with
  | nil => cases h
  | cons line lines ih =>
    have hreads := block.reads line
    rw [Block.readAll, List.mem_append, Option.mem_toList] at h
    rw [Block.readAll, List.mem_append, Option.mem_toList]
    generalize (block.read line).1 = action at *
    generalize (block.read line).2 = next at *
    rcases h with hline | hlater
    · cases hreads <;> cases hline
      exact .inl ‹_›
    · rcases ih hlater with hnext | hopened
      · cases hreads with
        | openPort hport =>
          cases hnext
          exact .inr (.inl rfl)
        | openVlan hvlan => cases hnext
        | ends => cases hnext
        | _ => exact .inl hnext
      · exact .inr (.inr hopened)

theorem mem_headerPorts_of_inPort {text id : Text} {statement : PortStatement}
    (h : .inPort id statement ∈ actions text) : id ∈ headerPorts text := by
  rcases Block.openPort_mem h with hnone | hopened
  · cases hnone
  · exact mem_headerPorts.mpr hopened

/-- The records of ports are those that a header or a list names. -/
theorem mem_ports_keys_read {text id : Text} :
    id ∈ (read text).ports.keys ↔ id ∈ headerPorts text ∨ id ∈ listedPorts text := by
  rw [read_eq_replay, mem_ports_keys_replay]
  constructor
  · rintro ⟨a, ha, hid⟩
    cases a with
    | openPort port =>
      obtain rfl := List.mem_singleton.mp hid
      exact .inl (mem_headerPorts.mpr ha)
    | inPort port statement =>
      obtain rfl := List.mem_singleton.mp hid
      exact .inl (mem_headerPorts_of_inPort ha)
    | inVlan vlan statement => exact .inr (List.mem_flatMap.mpr ⟨_, ha, hid⟩)
    | _ => cases hid
  · rintro (hheader | hlisted)
    · exact ⟨_, mem_headerPorts.mp hheader, List.mem_singleton_self id⟩
    · obtain ⟨a, ha, hid⟩ := List.mem_flatMap.mp hlisted
      cases a with
      | inVlan vlan statement => exact ⟨_, ha, hid⟩
      | _ => cases hid

/-- Every action of a text is what some line does in some block. -/
theorem exists_reads_of_mem {text : Text} {a : Action} (h : a ∈ actions text) :
    ∃ block line next, Block.Reads block line (some a) next := by
  obtain ⟨block, line, _, hread⟩ := Block.exists_line_of_mem h
  exact ⟨block, line, _, hread ▸ block.reads line⟩

/-- The number in a header may be spelt in any way. -/
theorem isNumeral_of_headerPorts {text id : Text} (h : id ∈ headerPorts text) : IsNumeral id := by
  obtain ⟨a, ha, hid⟩ := List.mem_filterMap.mp h
  obtain ⟨block, line, next, hreads⟩ := exists_reads_of_mem ha
  cases hreads with
  | openPort hheader =>
    cases hid
    exact portHeader?_eq_some hheader
  | _ => cases hid

/-- A listed port is spelt in the shortest way. -/
theorem render_numberOf_listed {text id : Text} (h : id ∈ listedPorts text) :
    Decimal.render (numberOf id) = id := by
  obtain ⟨a, ha, hid⟩ := List.mem_flatMap.mp h
  obtain ⟨block, line, next, hreads⟩ := exists_reads_of_mem ha
  cases hreads with
  | inVlan hblock hstatement =>
    obtain ⟨n, rfl⟩ := exists_eq_render_of_listed hstatement id hid
    rw [numberOf_render]
  | _ => cases hid

theorem isNumeral_of_mem_keys {text id : Text} (h : id ∈ (read text).ports.keys) :
    IsNumeral id := by
  rcases mem_ports_keys_read.mp h with hheader | hlisted
  · exact isNumeral_of_headerPorts hheader
  · rw [← render_numberOf_listed hlisted]
    exact isNumeral_of_isNumber (Decimal.isNumber_render _)

/-- No number has two records if and only if every header is written as all else is. -/
theorem nodup_numbers_iff (text : Text) :
    ((read text).ports.keys.map numberOf).Nodup ↔ SpeltAlike text := by
  rw [List.nodup_map_iff_inj_on (read text).ports.nodup_keys]
  constructor
  · intro distinct header hheader id hid hnumber
    exact distinct id (mem_ports_keys_read.mpr hid) header (mem_ports_keys_read.mpr (.inl hheader))
      hnumber
  · intro alike a ha b hb hnumber
    have hanamed := mem_ports_keys_read.mp ha
    rcases mem_ports_keys_read.mp hb with hbheader | hblisted
    · exact alike b hbheader a hanamed hnumber
    · rcases hanamed with haheader | halisted
      · exact (alike a haheader b (.inr hblisted) hnumber.symm).symm
      · rw [← render_numberOf_listed halisted, hnumber, render_numberOf_listed hblisted]

/-- The membership of a port, and nothing else that is said about it. -/
def membershipOnly (port : Port) : Port :=
  { id := port.id, accessVlan := port.accessVlan, trunkVlans := port.trunkVlans,
    nativeVlan := port.nativeVlan }

/-- A record that no header names holds membership only. -/
theorem eq_membershipOnly {text id : Text} {port : Port} (h : (read text).ports.get? id = some port)
    (hid : id ∉ headerPorts text) : port = membershipOnly port := by
  rw [read_eq_replay] at h
  rw [← portAt_of_get? h, portAt_replay]
  refine Replay.foldl_keeps (P := fun r => r = membershipOnly r) (fun record a ha hrecord => ?_) rfl
  cases a with
  | inVlan vlan statement =>
    rw [Action.onPort]
    rcases statement.onPort_cases vlan id record with hsame | htrunk | htake
    · rwa [hsame]
    · rw [htrunk, hrecord]
      rfl
    · rw [htake, hrecord]
      rfl
  | inPort other statement =>
    have hother : other ≠ id := by
      rintro rfl
      exact hid (mem_headerPorts_of_inPort ha)
    rwa [Action.onPort, if_neg hother]
  | _ => exact hrecord

theorem mem_listedPorts_of_untaggedBy {text port key : Text}
    (h : key ∈ untaggedBy port (actions text)) : port ∈ listedPorts text := by
  obtain ⟨ports, ha, hport⟩ := mem_untaggedBy.mp h
  exact List.mem_flatMap.mpr ⟨_, ha, hport⟩

theorem mem_listedPorts_of_taggedBy {text port key : Text}
    (h : key ∈ taggedBy port (actions text)) : port ∈ listedPorts text := by
  obtain ⟨ports, ha, hport⟩ := mem_taggedBy.mp h
  exact List.mem_flatMap.mpr ⟨_, ha, hport⟩

/-- A record that no list names holds no membership. -/
theorem no_membership {text id : Text} {port : Port} (h : (read text).ports.get? id = some port)
    (hid : id ∉ listedPorts text) :
    port.accessVlan = none ∧ port.trunkVlans = [] ∧ port.nativeVlan = none := by
  rw [read_eq_replay] at h
  have huntagged : untaggedBy id (actions text) = [] :=
    List.eq_nil_iff_forall_not_mem.mpr fun _ hkey => hid (mem_listedPorts_of_untaggedBy hkey)
  refine ⟨?access, ?trunk, ?native⟩
  case access => rw [accessVlan_replay h, huntagged, List.getLast?_nil]
  case trunk =>
    refine List.eq_nil_iff_forall_not_mem.mpr fun key hkey => hid ?_
    exact mem_listedPorts_of_taggedBy ((mem_trunkVlans_replay h).mp hkey)
  case native => rw [nativeVlan_replay h, huntagged, List.head?_nil]

end ProCurve

namespace AosCx

def portHeaders (output : Text) : List Text := (output.splitOn '\n').filter isPortHeader

/-- The headers of ports in a written text are those of its records. -/
theorem portHeaders_write {network : Network} {profile : SiteProfile} (keyed : network.Keyed)
    (fitting : FittingNetwork network) (hstem : OneLine profile.portStem)
    (hsite : OneLine profile.nativeVlan) :
    ∃ ids : List Text, ids.Perm network.ports.keys ∧
      portHeaders (write network profile) = ids.map (portHeader profile) := by
  have hwritten := written keyed fitting hstem hsite
  refine ⟨(NumericOrder.sortBy Port.id network.ports.values).map Port.id, ?_, ?_⟩
  · rw [← OrderedMap.map_values_eq_keys keyed.ports]
    exact (NumericOrder.sortBy_perm ..).map Port.id
  · have hdevice : (deviceHeads network).filter isPortHeader = [] :=
      List.filter_eq_nil_iff.mpr fun line hline => by simp [(opensNone_deviceHeads line hline).port]
    have hvlans (vlans : List Vlan) :
        (vlans.map (vlanHeader ·.id)).filter isPortHeader = [] := by
      refine List.filter_eq_nil_iff.mpr (List.forall_mem_map.mpr fun vlan _ => ?_)
      exact Bool.false_ne_true
    have hspanning : spanningTreeHeads.filter isPortHeader = [] := by decide
    have hports (ports : List Port) : (ports.map (portHeader profile ·.id)).filter isPortHeader =
        ports.map (portHeader profile ·.id) :=
      List.filter_eq_self.mpr (List.forall_mem_map.mpr fun port _ => rfl)
    rw [portHeaders, hwritten.output_eq, Entry.splitOn_render hwritten.ne_nil hwritten.oneLine,
      Entry.filter_lines_of_imp (by decide) fun _ => atMargin_of_isPortHeader, map_head_entries,
      List.filter_append, List.filter_append, List.filter_append, hdevice, hvlans, hspanning,
      hports, List.map_map]
    rfl

end AosCx

namespace ProCurve

/-- A port has one record, and one block in AOS-CX, if and only if its headers write its number as
all else in the text does; lists always write it in the shortest form. Where they differ, a record
under a spelling of a header alone has no membership, and one under a spelling of a list alone has
nothing else. -/
theorem one_record_iff (text : Text) :
    (∀ id ∈ (read text).ports.keys, IsNumeral id ∧
      (id ∈ headerPorts text ∨ id ∈ listedPorts text ∧ id = Decimal.render (numberOf id))) ∧
    (((read text).ports.keys.map numberOf).Nodup ↔ SpeltAlike text) ∧
    (∀ id port, (read text).ports.get? id = some port →
      (id ∉ headerPorts text → port = membershipOnly port) ∧
      (id ∉ listedPorts text →
        port.accessVlan = none ∧ port.trunkVlans = [] ∧ port.nativeVlan = none)) ∧
    ∀ profile : SiteProfile, OneLine profile.portStem → OneLine profile.nativeVlan →
      ∃ ids : List Text,
        AosCx.portHeaders (Direction.proCurveToAosCx.translate text profile).output =
          ids.map (AosCx.portHeader profile) ∧
        ids.Perm (read text).ports.keys ∧ ((ids.map numberOf).Nodup ↔ SpeltAlike text) := by
  refine ⟨fun id hid => ?named, nodup_numbers_iff text, fun id port h => ?held, ?written⟩
  case named =>
    refine ⟨isNumeral_of_mem_keys hid, (mem_ports_keys_read.mp hid).imp_right fun h => ⟨h, ?_⟩⟩
    exact (render_numberOf_listed h).symm
  case held => exact ⟨eq_membershipOnly h, no_membership h⟩
  case written =>
    intro profile hstem hsite
    obtain ⟨ids, hperm, hheaders⟩ :=
      AosCx.portHeaders_write (keyed_read text) (fitting text) hstem hsite
    refine ⟨ids, hheaders, hperm, ?_⟩
    rw [(hperm.map numberOf).nodup_iff, nodup_numbers_iff]

/-- A list with leading zeros, and a header without. -/
def wholePort : Text :=
  "vlan 10\n   tagged 05-06\n   exit\ninterface 5\n   disable\n   exit".toList

theorem wholePort_has_one_record : SpeltAlike wholePort ∧
    ∃ ids : List Text,
      AosCx.portHeaders (Direction.proCurveToAosCx.translate wholePort .default).output =
          ids.map (AosCx.portHeader .default) ∧
        ids.Perm (read wholePort).ports.keys ∧ (ids.map numberOf).Nodup := by
  obtain ⟨-, distinct, -, hwritten⟩ := one_record_iff wholePort
  have alike : SpeltAlike wholePort := distinct.mp (by decide +kernel)
  obtain ⟨ids, hheaders, hperm, hids⟩ := hwritten .default (by decide) (by decide)
  exact ⟨alike, ids, hheaders, hperm, hids.mpr alike⟩

def splitPort : Text :=
  "vlan 10\n   tagged 5\n   exit\ninterface 05\n   disable\n   exit".toList

theorem splitPort_has_two_records :
    (read splitPort).ports.keys = ["5".toList, "05".toList] ∧
      numberOf "05".toList = numberOf "5".toList ∧
      AosCx.portHeaders (Direction.proCurveToAosCx.translate splitPort .default).output =
        ["interface 1/1/05".toList, "interface 1/1/5".toList] := by
  decide +kernel

end ProCurve

end SwitchDialects
