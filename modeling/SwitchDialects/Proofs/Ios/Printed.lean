import SwitchDialects.Proofs.AosCx.Prepared
import SwitchDialects.Proofs.NumberList
import SwitchDialects.Proofs.RoundTrip
import SwitchDialects.Translation

/-!
# Texts of an IOS network in print

Whatever a network read from an IOS configuration is written with fits on a line each: a statement
takes its texts from one line, and a record takes them from statements. The VLANs of a port come
from accepted lists or are the last words of statements, which are not checked.
-/

namespace SwitchDialects

open Text

namespace Ios

/-- The VLAN that a statement takes from its last word as it is written. -/
def PortStatement.word? : PortStatement → Option Text
  | .access vlan | .voice vlan => some vlan
  | .native vlan => vlan
  | _ => none

structure PortStatement.Readable (statement : PortStatement) : Prop where
  word : ∀ word, statement.word? = some word → OneLine word
  listed : ∀ vlan ∈ statement.trunkVlans,
    OneLine vlan ∧ ',' ∉ vlan ∧ NumberList.IsVlanId (compact vlan)

theorem oneLine_lastWord? {rest word : Text} (h : OneLine rest)
    (hword : lastWord? rest = some word) : OneLine word :=
  h.of_subset fun c hc => ((mem_words (List.mem_of_getLast? hword)).2 c hc).2

theorem oneLine_lastWord {rest : Text} (h : OneLine rest) : OneLine (lastWord rest) := by
  rw [lastWord]
  cases hword : lastWord? rest with
  | none => exact h
  | some word => exact oneLine_lastWord? h hword

/-- The VLANs of a trunk list are checked before they are taken. -/
theorem listed_trunkList {rest : Text} (h : OneLine rest) :
    ∀ vlan ∈ trunkList rest, OneLine vlan ∧ ',' ∉ vlan ∧ NumberList.IsVlanId (compact vlan) := by
  intro vlan hvlan
  simp only [trunkList] at hvlan
  split at hvlan
  · rename_i haccepts
    have hone : OneLine ((("add ".toList.isPrefixOf? rest).map trim).getD rest) := by
      cases hadd : "add ".toList.isPrefixOf? rest with
      | none => exact h
      | some list =>
        rw [← List.isPrefixOf?_eq_some_iff_append_eq.mp hadd] at h
        exact h.of_subset fun c hc => List.mem_append_right _ (mem_of_mem_stripEnds hc)
    refine ⟨fun hc => ?_, fun hc => ?_, NumberList.isVlanId_of_mem_vlans haccepts hvlan⟩
    · rcases NumberList.of_mem_member hvlan hc with ⟨hmem, _⟩ | hdigit
      · exact hone hmem
      · exact absurd hdigit (by decide)
    · rcases NumberList.of_mem_member hvlan hc with ⟨_, hcomma⟩ | hdigit
      · exact hcomma rfl
      · exact absurd hdigit (by decide)
  · cases hvlan

theorem PortStatement.readable_of_line {line : Text} {statement : PortStatement}
    (hl : Significant line) (h : PortStatement.ofLine? line = some statement) :
    statement.Readable := by
  have hone {keyword rest : Text} (hrest : argument? keyword line = some rest) : OneLine rest :=
    (significant_argument? hl hrest).oneLine
  have silent {s : PortStatement} (hword : s.word? = none) (hlist : s.trunkVlans = []) :
      s.Readable := ⟨by simp [hword], by simp [hlist]⟩
  refine PortStatement.reading h (fun _ _ => silent rfl rfl) (fun _ => silent rfl rfl) ?access
    ?trunk ?native ?voice (fun _ _ => silent rfl rfl) (silent rfl rfl) (fun _ => silent rfl rfl)
    (fun _ => silent rfl rfl)
  case access =>
    intro rest hrest
    exact ⟨fun _ hword => Option.some.inj hword ▸ oneLine_lastWord (hone hrest),
      by simp [trunkVlans]⟩
  case trunk =>
    intro rest hrest
    exact ⟨by simp [word?], listed_trunkList (hone hrest)⟩
  case native =>
    intro rest hrest
    exact ⟨fun _ hword => oneLine_lastWord? (hone hrest) hword, by simp [trunkVlans]⟩
  case voice =>
    intro rest hrest
    exact ⟨fun _ hword => Option.some.inj hword ▸ oneLine_lastWord (hone hrest),
      by simp [trunkVlans]⟩

/-- A statement in the block of a port was read from one line. -/
theorem exists_line_of_inPort {text port : Text} {statement : PortStatement}
    (h : .inPort port statement ∈ actions text) :
    ∃ line ∈ significantLines text, PortStatement.ofLine? line = some statement := by
  obtain ⟨block, line, hline, hread⟩ := Block.exists_line_of_mem h
  exact ⟨line, hline, (Block.read_eq_inPort.mp hread).2.2⟩

theorem readable_of_inPort {text port : Text} {statement : PortStatement}
    (h : .inPort port statement ∈ actions text) : statement.Readable := by
  obtain ⟨line, hline, hread⟩ := exists_line_of_inPort h
  exact PortStatement.readable_of_line (significant_of_mem hline) hread

variable {as : List Action} {port vlan : Text} {record : Port}

/-- A statement that is about the port writes the VLAN into its record. -/
def Names (as : List Action) (port vlan : Text) : Prop :=
  ∃ statement, .inPort port statement ∈ as ∧
    (statement.word? = some vlan ∨ vlan ∈ statement.trunkVlans)

/-- A record holds after a statement what it held before and what the statement names. -/
theorem holds_apply {statement : PortStatement} (h : AosCx.Holds (statement.apply record) vlan) :
    AosCx.Holds record vlan ∨ statement.word? = some vlan ∨ vlan ∈ statement.trunkVlans := by
  cases h with
  | native h =>
    cases statement with
    | native written => exact .inr (.inl h)
    | trunk vlans =>
      rw [PortStatement.apply, foldl_addTrunkVlan] at h
      exact .inl (.native h)
    | power enabled kept => cases kept <;> exact .inl (.native h)
    | _ => exact .inl (.native h)
  | access h =>
    rw [PortStatement.accessVlan_apply] at h
    cases statement <;> first | exact .inl (.access h) | exact .inr (.inl h)
  | voice h =>
    rw [PortStatement.voiceVlan_apply] at h
    cases statement <;> first | exact .inl (.voice h) | exact .inr (.inl h)
  | trunk h =>
    rw [PortStatement.trunkVlans_apply, mem_foldl_appendNew] at h
    rcases h with h | h
    · exact .inl (.trunk h)
    · exact .inr (.inr h)

theorem names_of_holds (ordered : Ordered as)
    (hget : (replay start as).ports.get? port = some record) (h : AosCx.Holds record vlan) :
    Names as port vlan := by
  rw [get?_ports_replay ordered] at hget
  split at hget
  · cases hget
    refine Replay.foldl_keeps (P := fun r => ∀ v, AosCx.Holds r v → Names as port v)
      (fun r s hs hr v hv => ?_) (fun v hv => ?_) vlan h
    · rcases holds_apply hv with hold | hnew
      · exact hr v hold
      · exact ⟨s, mem_statementsOf.mp hs, hnew⟩
    · rcases hv with hv | hv | hv | hv <;> cases hv
  · cases hget

theorem oneLine_of_holds {text : Text} (hget : (read text).ports.get? port = some record)
    (h : AosCx.Holds record vlan) : OneLine vlan := by
  rw [read_eq_replay] at hget
  obtain ⟨statement, hmem, hword | hlisted⟩ := names_of_holds (ordered_actions text) hget h
  · exact (readable_of_inPort hmem).word vlan hword
  · exact ((readable_of_inPort hmem).listed vlan hlisted).1

theorem shortPort_apply {statement : PortStatement} (hs : statement.Plain) {record : Port}
    (h : AosCx.ShortPort record) : AosCx.ShortPort (statement.apply record) := by
  cases statement with
  | description text => exact ⟨fun _ e => Option.some.inj e ▸ Significant.oneLine hs, h.speed⟩
  | trunk vlans =>
    rw [PortStatement.apply, foldl_addTrunkVlan]
    exact ⟨h.description, h.speed⟩
  | power enabled kept => cases kept <;> exact ⟨h.description, h.speed⟩
  | _ => exact ⟨h.description, h.speed⟩

theorem shortPort_replay (ordered : Ordered as) (plain : ∀ a ∈ as, a.Plain) {record : Port}
    (hget : (replay start as).ports.get? port = some record) : AosCx.ShortPort record := by
  rw [get?_ports_replay ordered] at hget
  split at hget
  · cases hget
    refine Replay.foldl_keeps (P := AosCx.ShortPort) (fun r s hs hr => ?_) ⟨by simp, rfl⟩
    exact shortPort_apply (plain _ (mem_statementsOf.mp hs)) hr
  · cases hget

theorem plain_device (text : Text) : ∀ s ∈ (read text).device, s.Plain := by
  intro statement hs
  rw [device_read] at hs
  obtain ⟨line, hline, hstatement⟩ := List.mem_filterMap.mp hs
  exact plain_of_deviceStatement? (significant_of_mem hline) hstatement

end Ios

theorem DeviceStatement.Plain.fits {statement : DeviceStatement} (h : statement.Plain) :
    statement.Fits := by
  cases statement with
  | hostname name => exact Significant.oneLine h
  | location text => exact Significant.oneLine h
  | _ => trivial

theorem shortNetwork_prepare {network : Network} (device : ∀ s ∈ network.device, s.Plain)
    (ports : ∀ key record, network.ports.get? key = some record → AosCx.ShortPort record)
    (profile : SiteProfile) : AosCx.ShortNetwork (AosCx.prepare network profile) where
  hostname name hname :=
    oneLine_hostname? (fun s hs => (device s hs).fits)
      (show network.hostname? = some name from hname)
  location place hplace :=
    oneLine_location? (fun s hs => (device s hs).fits)
      (show network.location? = some place from hplace)
  ports port hmem := by
    obtain ⟨key, record, hrecord, rfl⟩ := mem_values_prepare hmem
    exact shortPort_withVoiceNative (ports key record hrecord) profile

theorem Ios.shortPort_read {text key : Text} {record : Port}
    (hget : (Ios.read text).ports.get? key = some record) : AosCx.ShortPort record := by
  rw [Ios.read_eq_replay] at hget
  exact Ios.shortPort_replay (Ios.ordered_actions text) (fun _ => Ios.plain_actions) hget

theorem Ios.isNumber_of_port {text id : Text} (h : id ∈ (Ios.read text).ports.keys) :
    Decimal.isNumber id = true := by
  rw [Ios.read_eq_replay] at h
  exact (Ios.isPortId_of_mem_keys (Ios.ordered_actions text) (fun _ => Ios.plain_actions) h).1

theorem Ios.isNumber_of_vlan {text id : Text} (h : id ∈ (Ios.read text).vlans.keys) :
    Decimal.isNumber id = true := by
  rw [Ios.read_eq_replay] at h
  exact Ios.plain_actions (Ios.mem_vlans_keys_replay.mp h)

theorem Ios.plainVlan_read {text key : Text} {vlan : Vlan}
    (hget : (Ios.read text).vlans.get? key = some vlan) : Ios.PlainVlan key vlan := by
  rw [Ios.read_eq_replay] at hget
  exact Ios.plainVlan_replay (fun _ => Ios.plain_actions) hget

/-- Every line of the network written for ProCurve is one line. -/
theorem Ios.legible (text : Text) : ProCurve.LegibleNetwork (Ios.read text) where
  device := Ios.plain_device text
  vlans vlan hmem := by
    obtain ⟨key, hget⟩ := OrderedMap.mem_values_iff.mp hmem
    have hplain := Ios.plainVlan_read hget
    exact
      { id := hplain.id ▸ Ios.isNumber_of_vlan (OrderedMap.mem_keys_of_get? hget)
        name := fun name hname => (hplain.name name hname).1
        address := hplain.address
        untagged := fun port hport =>
          Ios.isNumber_of_port (Ios.members_read text vlan hmem port (.inl hport))
        tagged := fun port hport =>
          Ios.isNumber_of_port (Ios.members_read text vlan hmem port (.inr hport)) }
  ports port hmem := by
    obtain ⟨key, hget⟩ := OrderedMap.mem_values_iff.mp hmem
    have hid := (Ios.keyed_read text).ports key port hget
    refine ⟨hid ▸ Ios.isNumber_of_port (OrderedMap.mem_keys_of_get? hget), ?_⟩
    rw [Ios.read_eq_replay, Ios.get?_ports_replay (Ios.ordered_actions text)] at hget
    split at hget
    · cases hget
      exact Ios.plain_kept_foldl (fun s hs => Ios.plain_actions (Ios.mem_statementsOf.mp hs))
        (by simp)
    · cases hget

/-- Whatever is written for AOS-CX fits on a line. -/
theorem Ios.fitting (text : Text) : AosCx.FittingNetwork (Ios.read text) where
  hostname _ := oneLine_hostname? fun s hs => (Ios.plain_device text s hs).fits
  location _ := oneLine_location? fun s hs => (Ios.plain_device text s hs).fits
  vlans vlan hmem := by
    obtain ⟨key, hget⟩ := OrderedMap.mem_values_iff.mp hmem
    have hplain := Ios.plainVlan_read hget
    have hnumber := Ios.isNumber_of_vlan (OrderedMap.mem_keys_of_get? hget)
    rw [hplain.id]
    exact ⟨(Decimal.significant_of_isNumber hnumber).oneLine,
      fun name hname => (hplain.name name hname).1⟩
  ports port hmem := by
    obtain ⟨key, hget⟩ := OrderedMap.mem_values_iff.mp hmem
    have hnumber := Ios.isNumber_of_port (OrderedMap.mem_keys_of_get? hget)
    have hshort := Ios.shortPort_read hget
    exact
      { id := (Ios.keyed_read text).ports key port hget ▸
          (Decimal.significant_of_isNumber hnumber).oneLine
        description := hshort.description
        speed := by simp [hshort.speed]
        vlans := fun _ => Ios.oneLine_of_holds hget }

end SwitchDialects
