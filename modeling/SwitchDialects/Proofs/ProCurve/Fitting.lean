import SwitchDialects.Proofs.AosCx.Prepared
import SwitchDialects.Proofs.NumberList.Ports
import SwitchDialects.Proofs.ProCurve.Membership

/-!
# Texts of a ProCurve network in print

A text in a network that was read from a ProCurve configuration is a part of one line, or the number
of a port in its shortest form. So whatever such a network is written with fits on a line.
-/

namespace SwitchDialects

open Text

theorem Text.mem_of_afterKeyword? {keyword line rest : Text}
    (h : afterKeyword? keyword line = some rest) : ∀ c ∈ rest, c ∈ line := by
  induction keyword generalizing line with
  | nil =>
    cases h
    exact fun c hc => hc
  | cons k keyword ih =>
    cases line with
    | nil => cases h
    | cons d line =>
      rw [afterKeyword?] at h
      split at h
      · exact fun c hc => List.mem_cons_of_mem d (ih h c hc)
      · cases h

theorem Text.mem_of_afterBlank? {keyword line rest : Text}
    (h : afterBlank? keyword line = some rest) : ∀ c ∈ rest, c ∈ line := by
  rw [afterBlank?] at h
  split at h
  case h_1 d after hafter =>
    split at h
    · cases h
      intro c hc
      have hmem := (List.dropWhile_sublist isBlank).subset hc
      exact mem_of_afterKeyword? hafter c (List.mem_cons_of_mem d hmem)
    · cases h
  case h_2 => cases h

theorem Text.mem_of_foldedArgument? {keyword line argument : Text}
    (h : foldedArgument? keyword line = some argument) : ∀ c ∈ argument, c ∈ line := by
  rw [foldedArgument?] at h
  split at h
  case h_1 d rest hrest =>
    cases h
    exact fun c hc => mem_of_afterBlank? hrest c (mem_of_mem_stripEnds hc)
  case h_2 => cases h

theorem Text.mem_of_foldedRun? {keyword line run : Text} {inClass : Char → Bool}
    (h : foldedRun? keyword inClass line = some run) : ∀ c ∈ run, c ∈ line := by
  rw [foldedRun?] at h
  split at h
  case h_1 d rest hrest =>
    cases h
    obtain ⟨after, hafter, hrun⟩ := Option.map_eq_some_iff.mp hrest
    intro c hc
    rw [← hrun] at hc
    exact mem_of_afterBlank? hafter c ((List.takeWhile_sublist inClass).subset hc)
  case h_2 => cases h

theorem NumberList.oneLine_of_mem_ports {list port : Text} (h : port ∈ ports list) :
    OneLine port :=
  (Decimal.significant_of_isNumber (isPort_of_mem_ports h).isNumber).oneLine

namespace ProCurve

def VlanStatement.Fits : VlanStatement → Prop
  | .tagged ports | .untagged ports => ∀ port ∈ ports, OneLine port
  | .name text | .address text => OneLine text
  | .voice => True

def PortStatement.Fits : PortStatement → Prop
  | .description text | .speed text | .voice text => OneLine text
  | _ => True

/-- The texts that an action puts into a network fit on a line each. -/
def Action.Fits : Action → Prop
  | .declare statement => statement.Fits
  | .openVlan id | .openPort id => OneLine id
  | .inVlan id statement => OneLine id ∧ statement.Fits
  | .inPort id statement => OneLine id ∧ statement.Fits

def Block.Fits : Block → Prop
  | .none => True
  | .vlan id | .port id => OneLine id

theorem fits_of_vlanStatement {line : Text} {statement : VlanStatement} (hl : OneLine line)
    (h : VlanStatement.ofLine? line = some statement) : statement.Fits := by
  have hpart {keyword argument : Text} (harg : foldedArgument? keyword line = some argument) :
      OneLine argument := hl.of_subset (mem_of_foldedArgument? harg)
  rw [VlanStatement.ofLine?] at h
  rcases of_orElse_eq_some h with h | h
  · obtain ⟨list, _, rfl⟩ := Option.map_eq_some_iff.mp h
    exact fun port => NumberList.oneLine_of_mem_ports
  rcases of_orElse_eq_some h with h | h
  · obtain ⟨list, _, rfl⟩ := Option.map_eq_some_iff.mp h
    exact fun port => NumberList.oneLine_of_mem_ports
  rcases of_orElse_eq_some h with h | h
  · obtain ⟨text, htext, rfl⟩ := Option.map_eq_some_iff.mp h
    exact (hpart htext).of_subset fun _ => mem_of_mem_stripEnds
  rcases of_orElse_eq_some h with h | h
  · obtain ⟨text, htext, rfl⟩ := Option.map_eq_some_iff.mp h
    exact hpart htext
  · split at h
    · cases h
      trivial
    · cases h

theorem fits_of_portStatement {line : Text} {statement : PortStatement} (hl : OneLine line)
    (h : PortStatement.ofLine? line = some statement) : statement.Fits := by
  have of_ite {condition : Prop} [Decidable condition] {made : PortStatement}
      (hif : (if condition then some made else none) = some statement) (hmade : made.Fits) :
      statement.Fits := by
    split at hif
    · cases hif
      exact hmade
    · cases hif
  rw [PortStatement.ofLine?] at h
  rcases of_orElse_eq_some h with h | h
  · obtain ⟨text, htext, rfl⟩ := Option.map_eq_some_iff.mp h
    have hpart : OneLine text := by
      rcases of_orElse_eq_some htext with htext | htext <;>
        exact hl.of_subset (mem_of_foldedArgument? htext)
    exact hpart.of_subset fun _ => mem_of_mem_stripEnds
  rcases of_orElse_eq_some h with h | h
  · exact of_ite h trivial
  rcases of_orElse_eq_some h with h | h
  · exact of_ite h trivial
  rcases of_orElse_eq_some h with h | h
  · exact of_ite h trivial
  rcases of_orElse_eq_some h with h | h
  · exact of_ite h trivial
  rcases of_orElse_eq_some h with h | h
  · exact of_ite h trivial
  rcases of_orElse_eq_some h with h | h
  · obtain ⟨setting, hsetting, rfl⟩ := Option.map_eq_some_iff.mp h
    exact hl.of_subset (mem_of_foldedRun? hsetting)
  · obtain ⟨vlan, hvlan, rfl⟩ := Option.map_eq_some_iff.mp h
    exact hl.of_subset (mem_of_foldedRun? hvlan)

theorem oneLine_portHeader? {line id : Text} (hl : OneLine line) (h : portHeader? line = some id) :
    OneLine id := by
  obtain ⟨rest, hrest, hid⟩ := Option.bind_eq_some_iff.mp h
  simp only at hid
  split at hid
  · cases hid
    exact hl.of_subset fun c hc =>
      mem_of_afterBlank? hrest c ((List.takeWhile_sublist isDecimalDigit).subset hc)
  · cases hid

/-- What a line does fits on a line, and so does the number of the block that is open after it. -/
theorem Block.Reads.fits {block next : Block} {line : Text} {action : Option Action}
    (hreads : block.Reads line action next) (h : block.Fits) (hl : OneLine line) :
    (∀ a ∈ action, a.Fits) ∧ next.Fits := by
  cases hreads with
  | location hlocation =>
    refine ⟨fun a ha => ?_, h⟩
    cases ha
    exact hl.of_subset (argument?_eq_some hlocation).2.2
  | hostname hhostname =>
    obtain ⟨argument, hargument, rfl⟩ := Option.map_eq_some_iff.mp hhostname
    refine ⟨fun a ha => ?_, h⟩
    cases ha
    exact (hl.of_subset (mem_of_foldedArgument? hargument)).of_subset fun _ => mem_of_mem_stripEnds
  | openVlan hvlan =>
    have hid := hl.of_subset (mem_of_foldedRun? hvlan)
    refine ⟨fun a ha => ?_, hid⟩
    cases ha
    exact hid
  | openPort hport =>
    have hid := oneLine_portHeader? hl hport
    refine ⟨fun a ha => ?_, hid⟩
    cases ha
    exact hid
  | inVlan hblock hstatement =>
    subst hblock
    refine ⟨fun a ha => ?_, h⟩
    cases ha
    exact ⟨h, fits_of_vlanStatement hl hstatement⟩
  | inPort hblock hstatement =>
    subst hblock
    refine ⟨fun a ha => ?_, h⟩
    cases ha
    exact ⟨h, fits_of_portStatement hl hstatement⟩
  | ends => exact ⟨by simp, trivial⟩
  | ignored => exact ⟨by simp, h⟩

theorem fits_actions (text : Text) : ∀ a ∈ actions text, a.Fits :=
  Block.readAll_keeps (P := Block.Fits)
    (fun _ _ _ _ hline hreads h => hreads.fits h (significant_of_mem hline).oneLine) trivial

theorem Action.fits_ids {a : Action} (h : a.Fits) :
    (∀ id ∈ a.vlans, OneLine id) ∧ ∀ id ∈ a.ports, OneLine id := by
  cases a with
  | declare statement => simp [Action.vlans, Action.ports]
  | openVlan id => exact ⟨List.forall_mem_singleton.mpr h, by simp [Action.ports]⟩
  | openPort id => exact ⟨by simp [Action.vlans], List.forall_mem_singleton.mpr h⟩
  | inPort id statement => exact ⟨by simp [Action.vlans], List.forall_mem_singleton.mpr h.1⟩
  | inVlan id statement =>
    obtain ⟨hid, hstatement⟩ := h
    cases statement with
    | tagged ports => exact ⟨by simp [Action.vlans, hid], hstatement⟩
    | untagged ports => exact ⟨by simp [Action.vlans, hid], hstatement⟩
    | _ => exact ⟨by simpa [Action.vlans] using hid, by simp [Action.ports]⟩

theorem Action.name_onVlan {a : Action} (ha : a.Fits) (key : Text) {vlan : Vlan}
    (h : ∀ name, vlan.name = some name → OneLine name) :
    ∀ name, (a.onVlan key vlan).name = some name → OneLine name := by
  cases a with
  | inVlan id statement =>
    rw [Action.onVlan]
    split
    · cases statement with
      | name text => exact fun name hname => Option.some.inj hname ▸ ha.2
      | _ => exact h
    · exact h
  | _ => exact h

/-- Of the statements in the block of a port only that about its voice names a VLAN. -/
theorem holds_apply {statement : PortStatement} {port : Port} {vlan : Text}
    (h : AosCx.Holds (statement.apply port) vlan) :
    AosCx.Holds port vlan ∨ statement = .voice vlan := by
  cases h with
  | native h =>
    rw [PortStatement.nativeVlan_apply] at h
    exact Or.inl (.native h)
  | access h =>
    rw [PortStatement.accessVlan_apply] at h
    exact Or.inl (.access h)
  | trunk h =>
    rw [PortStatement.trunkVlans_apply] at h
    exact Or.inl (.trunk h)
  | voice h =>
    cases statement with
    | voice named => exact Or.inr (congrArg _ (Option.some.inj h))
    | _ => exact Or.inl (.voice h)

theorem fittingPort_apply {statement : PortStatement} (hs : statement.Fits) {port : Port}
    (h : AosCx.FittingPort port) : AosCx.FittingPort (statement.apply port) where
  id := statement.id_apply port ▸ h.id
  description := by
    cases statement with
    | description text => exact fun _ e => Option.some.inj e ▸ hs
    | _ => exact h.description
  speed := by
    cases statement with
    | speed setting => exact fun _ e => Option.some.inj e ▸ hs
    | _ => exact h.speed
  vlans vlan hvlan := by
    rcases holds_apply hvlan with hold | rfl
    · exact h.vlans vlan hold
    · exact hs

/-- A port that is listed in the block of a VLAN holds this VLAN besides. -/
theorem fittingPort_onPort {statement : VlanStatement} {id key : Text} (hid : OneLine id)
    {port : Port} (h : AosCx.FittingPort port) :
    AosCx.FittingPort (statement.onPort id key port) := by
  rcases statement.onPort_cases id key port with hsame | htrunk | htake
  · rwa [hsame]
  · rw [htrunk]
    refine ⟨h.id, h.description, h.speed, fun vlan hvlan => ?_⟩
    cases hvlan with
    | native hv => exact h.vlans vlan (.native hv)
    | access hv => exact h.vlans vlan (.access hv)
    | voice hv => exact h.vlans vlan (.voice hv)
    | trunk hv =>
      rcases mem_appendNew.mp hv with hv | rfl
      · exact h.vlans vlan (.trunk hv)
      · exact hid
  · rw [htake]
    refine ⟨h.id, h.description, h.speed, fun vlan hvlan => ?_⟩
    cases hvlan with
    | native hv =>
      rcases Option.or_eq_some_iff.mp hv with hv | ⟨_, hv⟩
      · exact h.vlans vlan (.native hv)
      · exact Option.some.inj hv ▸ hid
    | access hv => exact Option.some.inj hv ▸ hid
    | voice hv => exact h.vlans vlan (.voice hv)
    | trunk hv => exact h.vlans vlan (.trunk hv)

theorem Action.fittingPort_onPort {a : Action} (ha : a.Fits) (key : Text) {port : Port}
    (h : AosCx.FittingPort port) : AosCx.FittingPort (a.onPort key port) := by
  cases a with
  | inVlan id statement => exact ProCurve.fittingPort_onPort ha.1 h
  | inPort id statement =>
    rw [Action.onPort]
    split
    · exact fittingPort_apply ha.2 h
    · exact h
  | _ => exact h

/-- Texts that fit on a line each make a network of such texts. -/
theorem fitting_replay {as : List Action} (h : ∀ a ∈ as, a.Fits) :
    AosCx.FittingNetwork (replay start as) := by
  have hdevice : ∀ s ∈ (replay start as).device, s.Fits := by
    intro s hs
    rw [device_replay] at hs
    obtain ⟨a, ha, hdeclared⟩ := List.mem_filterMap.mp hs
    cases a with
    | declare statement => exact Option.some.inj hdeclared ▸ h _ ha
    | _ => cases hdeclared
  constructor
  case hostname => exact fun _ => oneLine_hostname? hdevice
  case location => exact fun _ => oneLine_location? hdevice
  case vlans =>
    intro vlan hvlan
    obtain ⟨key, hget⟩ := OrderedMap.mem_values_iff.mp hvlan
    obtain ⟨a, ha, hkey⟩ := mem_vlans_keys_replay.mp (OrderedMap.mem_keys_of_get? hget)
    refine ⟨(keyed_replay as).vlans key vlan hget ▸ (Action.fits_ids (h a ha)).1 key hkey, ?_⟩
    rw [← vlanAt_of_get? hget, vlanAt_replay]
    exact Replay.foldl_keeps (P := fun v : Vlan => ∀ name, v.name = some name → OneLine name)
      (fun v a ha hv => Action.name_onVlan (h a ha) key hv) (by simp [vlanAt, start])
  case ports =>
    intro port hport
    obtain ⟨key, hget⟩ := OrderedMap.mem_values_iff.mp hport
    obtain ⟨a, ha, hkey⟩ := mem_ports_keys_replay.mp (OrderedMap.mem_keys_of_get? hget)
    rw [← portAt_of_get? hget, portAt_replay]
    refine Replay.foldl_keeps (P := AosCx.FittingPort)
      (fun r a ha hr => Action.fittingPort_onPort (h a ha) key hr) ?_
    refine ⟨(Action.fits_ids (h a ha)).2 key hkey, by simp [portAt, start], by simp [portAt, start],
      fun vlan hvlan => ?_⟩
    rcases hvlan with hv | hv | hv | hv <;> cases hv

/-- Whatever is written for AOS-CX fits on a line. -/
theorem fitting (text : Text) : AosCx.FittingNetwork (read text) := by
  rw [read_eq_replay]
  exact fitting_replay (fits_actions text)

def Block.Named : Block → Prop
  | .port id => id ≠ []
  | _ => True

/-- The number in a header is a run of digits of any script. -/
theorem portHeader?_eq_some {line id : Text} (h : portHeader? line = some id) :
    id ≠ [] ∧ ∀ c ∈ id, isDecimalDigit c = true := by
  obtain ⟨rest, _, hid⟩ := Option.bind_eq_some_iff.mp h
  simp only at hid
  split at hid
  · rename_i hnumber
    cases hid
    simp only [Bool.and_eq_true, Bool.not_eq_true', List.isEmpty_eq_false_iff] at hnumber
    exact ⟨hnumber.1, fun c hc => List.mem_takeWhile_imp hc⟩
  · cases hid

/-- Lists name every port by the shortest form of its number. -/
theorem exists_eq_render_of_listed {line vlan : Text} {statement : VlanStatement}
    (h : VlanStatement.ofLine? line = some statement) :
    ∀ port ∈ (Action.inVlan vlan statement).ports, ∃ n, port = Decimal.render n := by
  have hlist {list port : Text} (hport : port ∈ NumberList.ports list) :
      ∃ n, port = Decimal.render n :=
    (NumberList.isPort_of_mem_ports hport).imp fun _ h => h.2
  rw [VlanStatement.ofLine?] at h
  rcases of_orElse_eq_some h with h | h
  · obtain ⟨list, _, rfl⟩ := Option.map_eq_some_iff.mp h
    exact fun _ => hlist
  rcases of_orElse_eq_some h with h | h
  · obtain ⟨list, _, rfl⟩ := Option.map_eq_some_iff.mp h
    exact fun _ => hlist
  rcases of_orElse_eq_some h with h | h
  · obtain ⟨text, _, rfl⟩ := Option.map_eq_some_iff.mp h
    simp [Action.ports]
  rcases of_orElse_eq_some h with h | h
  · obtain ⟨text, _, rfl⟩ := Option.map_eq_some_iff.mp h
    simp [Action.ports]
  · split at h
    · cases h
      simp [Action.ports]
    · cases h

theorem ne_nil_of_listed {line id : Text} {statement : VlanStatement}
    (h : VlanStatement.ofLine? line = some statement) :
    ∀ port ∈ (Action.inVlan id statement).ports, port ≠ [] := by
  intro port hport
  obtain ⟨n, rfl⟩ := exists_eq_render_of_listed h port hport
  exact (Decimal.significant_of_isNumber (Decimal.isNumber_render n)).ne_nil

theorem Block.Reads.named {block next : Block} {line : Text} {action : Option Action}
    (hreads : block.Reads line action next) (h : block.Named) :
    (∀ a ∈ action, ∀ id ∈ a.ports, id ≠ []) ∧ next.Named := by
  cases hreads with
  | openPort hport =>
    have hid := (portHeader?_eq_some hport).1
    exact ⟨by simpa [Action.ports] using hid, hid⟩
  | inVlan hblock hstatement =>
    refine ⟨fun a ha => ?_, h⟩
    cases ha
    exact ne_nil_of_listed hstatement
  | inPort hblock hstatement =>
    subst hblock
    exact ⟨by simpa [Action.ports, Block.Named] using h, h⟩
  | openVlan hvlan => exact ⟨by simp [Action.ports], trivial⟩
  | ends => exact ⟨by simp, trivial⟩
  | location hlocation => exact ⟨by simp [Action.ports], h⟩
  | hostname hhostname => exact ⟨by simp [Action.ports], h⟩
  | ignored => exact ⟨by simp, h⟩

/-- Every port of a network that was read has a number. -/
theorem portId_ne_nil (text : Text) : ∀ port ∈ (read text).ports.values, port.id ≠ [] := by
  have hnamed : ∀ a ∈ actions text, ∀ id ∈ a.ports, id ≠ [] :=
    Block.readAll_keeps (P := Block.Named) (fun _ _ _ _ _ hreads h => hreads.named h) trivial
  intro port hport
  obtain ⟨key, hget⟩ := OrderedMap.mem_values_iff.mp hport
  rw [read_eq_replay] at hget
  obtain ⟨a, ha, hkey⟩ := mem_ports_keys_replay.mp (OrderedMap.mem_keys_of_get? hget)
  rw [(keyed_replay (actions text)).ports key port hget]
  exact hnamed a ha key hkey

end ProCurve

end SwitchDialects
