import SwitchDialects.Proofs.Ios.Record

/-!
# Values in an IOS configuration

What the texts in a network can look like when they were read from an IOS configuration. VLANs and
ports are runs of digits, a port in its shortest form when its number has 32 bits. No value spans
two lines, arguments are trimmed, and a VLAN name has no quotes left.
-/

namespace SwitchDialects

open Text

theorem Text.significant_argument? {keyword line argument : Text} (hl : Significant line)
    (h : argument? keyword line = some argument) : Significant argument := by
  obtain ⟨hne, htrimmed, hsub⟩ := argument?_eq_some h
  exact ⟨hne, htrimmed, .of_subset hsub hl.oneLine⟩

def DeviceStatement.Plain : DeviceStatement → Prop
  | .hostname name => Significant name
  | .community name _ => OneLine name
  | .location text => Significant text
  | .spanningTree _ => True

def KeptStatement.Plain : KeptStatement → Prop
  | .description text => Significant text
  | _ => True

namespace Ios

def VlanStatement.Plain : VlanStatement → Prop
  | .name text => OneLine text ∧ '"' ∉ text
  | .address text => Significant text

def PortStatement.Plain : PortStatement → Prop
  | .description text => Significant text
  | _ => True

/-- A run of digits, without leading zeros if its value has 32 bits. -/
def IsPortId (id : Text) : Prop :=
  Decimal.isNumber id = true ∧ (Decimal.value id < Decimal.limit32 →
    Decimal.render (Decimal.value id) = id)

def Action.Plain : Action → Prop
  | .declare statement => statement.Plain
  | .openVlan id => Decimal.isNumber id = true
  | .openPort id => IsPortId id
  | .inVlan _ statement => statement.Plain
  | .inPort _ statement => statement.Plain

theorem plain_of_deviceStatement? {line : Text} {statement : DeviceStatement}
    (hl : Significant line) (h : deviceStatement? line = some statement) : statement.Plain := by
  rw [deviceStatement?] at h
  rcases of_orElse_eq_some h with h | h
  · obtain ⟨name, hname, rfl⟩ := Option.map_eq_some_iff.mp h
    exact significant_argument? hl hname
  rcases of_orElse_eq_some h with h | h
  · split at h
    · cases h
      trivial
    · cases h
  rcases of_orElse_eq_some h with h | h
  · obtain ⟨rest, hrest, hwords⟩ := Option.bind_eq_some_iff.mp h
    split at hwords
    case h_1 => cases hwords
    case h_2 name options hw =>
      cases hwords
      have hname : ∀ c ∈ name, c ∈ rest := fun c hc => ((mem_words (hw ▸ List.mem_cons_self)).2 c hc).2
      have hone := (significant_argument? hl hrest).oneLine
      exact (OneLine.of_subset hname hone).withoutQuotes
  · obtain ⟨text, htext, rfl⟩ := Option.map_eq_some_iff.mp h
    exact significant_argument? hl htext

theorem isPortId_portId {digits : Text} (h : Decimal.isNumber digits = true) :
    IsPortId (portId digits) := by
  rw [portId, Decimal.readDigits?]
  by_cases hv : Decimal.value digits < Decimal.limit32
  · simp only [h, hv, decide_true, Bool.and_self, if_true]
    exact ⟨Decimal.isNumber_render _, fun _ => by rw [Decimal.value_render]⟩
  · simp only [hv, decide_false, Bool.and_false, Bool.false_eq_true, if_false]
    exact ⟨h, fun hlt => absurd hlt hv⟩

theorem isNumber_of_trailing? {name digits : Text} (h : Decimal.trailing? name = some digits) :
    Decimal.isNumber digits = true := by
  rw [Decimal.trailing?] at h
  split at h
  case h_1 => cases h
  case h_2 ds hne =>
    cases h
    have hall : ∀ c ∈ (name.reverse.takeWhile Char.isDigit).reverse, c.isDigit = true := by
      intro c hc
      exact List.mem_takeWhile_imp (List.mem_reverse.mp hc)
    simp only [Decimal.isNumber, Bool.and_eq_true, Bool.not_eq_true', List.isEmpty_eq_false_iff,
      List.all_eq_true]
    exact ⟨hne, hall⟩

/-- The VLAN or the port of a header is written in digits. -/
theorem plain_of_interface {name : Text} {block : Block} {a : Action}
    (h : ((Header.interface (.ofName name)).read block).1 = some a) : a.Plain := by
  rw [Interface.ofName] at h
  split at h
  · split at h
    · rename_i hn
      cases h
      exact hn
    · cases h
  · split at h
    case h_1 digits htrail =>
      cases h
      exact isPortId_portId (isNumber_of_trailing? htrail)
    case h_2 => cases h

theorem plain_of_header {line : Text} {header : Header} {block : Block} {a : Action}
    (h : Header.ofLine? line = some header) (ha : (header.read block).1 = some a) : a.Plain := by
  rw [Header.ofLine?] at h
  rcases of_orElse_eq_some h with h | h
  · obtain ⟨id, hid, rfl⟩ := Option.map_eq_some_iff.mp h
    split at ha
    · rename_i hall
      cases ha
      have hne := (argument?_eq_some hid).1
      simp only [Action.Plain, Decimal.isNumber, Bool.and_eq_true, Bool.not_eq_true',
        List.isEmpty_eq_false_iff]
      exact ⟨hne, hall⟩
    · cases ha
  rcases of_orElse_eq_some h with h | h
  · obtain ⟨rest, _, rfl⟩ := Option.map_eq_some_iff.mp h
    exact plain_of_interface ha
  · split at h
    · cases h
      cases ha
    · cases h

theorem plain_of_vlanStatement {routed : Bool} {line : Text} {statement : VlanStatement}
    (hl : Significant line) (h : VlanStatement.ofLine? routed line = some statement) :
    statement.Plain := by
  rw [VlanStatement.ofLine?] at h
  rcases of_orElse_eq_some h with h | h
  · obtain ⟨text, htext, rfl⟩ := Option.map_eq_some_iff.mp h
    exact ⟨(significant_argument? hl htext).oneLine.withoutQuotes,
      quote_notMem_withoutQuotes text⟩
  · split at h
    · obtain ⟨text, htext, rfl⟩ := Option.map_eq_some_iff.mp h
      exact significant_argument? hl htext
    · cases h

theorem of_map_eq_some {P : PortStatement → Prop} {argument : Option Text}
    {make : Text → PortStatement} {statement : PortStatement}
    (h : argument.map make = some statement)
    (made : ∀ text, argument = some text → P (make text)) : P statement := by
  obtain ⟨text, htext, rfl⟩ := Option.map_eq_some_iff.mp h
  exact made text htext

theorem of_ite_eq_some {P : PortStatement → Prop} {condition : Prop} [Decidable condition]
    {made statement : PortStatement} (h : (if condition then some made else none) = some statement)
    (hmade : condition → P made) : P statement := by
  split at h
  case isTrue hcondition =>
    cases h
    exact hmade hcondition
  case isFalse => cases h

/-- A statement about a port is read in one of ten ways. -/
theorem PortStatement.reading {P : PortStatement → Prop} {line : Text} {statement : PortStatement}
    (h : PortStatement.ofLine? line = some statement)
    (description : ∀ rest, argument? "description".toList line = some rest → P (.description rest))
    (mode : ∀ declared, P (.mode declared))
    (access : ∀ rest, argument? "switchport access vlan".toList line = some rest →
      P (.access (lastWord rest)))
    (trunk : ∀ rest, argument? "switchport trunk allowed vlan".toList line = some rest →
      P (.trunk (trunkList rest)))
    (native : ∀ rest, argument? "switchport trunk native vlan".toList line = some rest →
      P (.native (lastWord? rest)))
    (voice : ∀ rest, argument? "switchport voice vlan".toList line = some rest →
      P (.voice (lastWord rest)))
    (power : ∀ rest, argument? "power inline".toList line = some rest → P (powerMode rest))
    (trusting : P .trustMarking) (opened : line = "no shutdown".toList → P .open)
    (shut : line = "shutdown".toList → P .shut) : P statement := by
  rw [PortStatement.ofLine?] at h
  rcases of_orElse_eq_some h with h | h
  · exact of_map_eq_some h description
  rcases of_orElse_eq_some h with h | h
  · exact of_map_eq_some h fun _ _ => mode _
  rcases of_orElse_eq_some h with h | h
  · exact of_map_eq_some h access
  rcases of_orElse_eq_some h with h | h
  · exact of_map_eq_some h trunk
  rcases of_orElse_eq_some h with h | h
  · exact of_map_eq_some h native
  rcases of_orElse_eq_some h with h | h
  · exact of_map_eq_some h voice
  rcases of_orElse_eq_some h with h | h
  · exact of_map_eq_some h power
  rcases of_orElse_eq_some h with h | h
  · exact of_ite_eq_some h fun _ => trusting
  rcases of_orElse_eq_some h with h | h
  · exact of_ite_eq_some h opened
  · exact of_ite_eq_some h shut

theorem plain_of_portStatement {line : Text} {statement : PortStatement}
    (hl : Significant line) (h : PortStatement.ofLine? line = some statement) :
    statement.Plain :=
  -- no other reading gives a description
  PortStatement.reading h (fun _ hrest => significant_argument? hl hrest) (fun _ => trivial)
    (fun _ _ => trivial) (fun _ _ => trivial) (fun _ _ => trivial) (fun _ _ => trivial)
    (fun _ _ => trivial) trivial (fun _ => trivial) (fun _ => trivial)

theorem plain_of_read {block : Block} {line : Text} {a : Action} (hl : Significant line)
    (h : (block.read line).1 = some a) : a.Plain := by
  rw [Block.read] at h
  cases hdevice : deviceStatement? line with
  | some statement =>
    rw [hdevice] at h
    cases h
    exact plain_of_deviceStatement? hl hdevice
  | none =>
    rw [hdevice] at h
    cases hheader : Header.ofLine? line with
    | some header =>
      rw [hheader] at h
      exact plain_of_header hheader h
    | none =>
      rw [hheader] at h
      cases block with
      | none => cases h
      | vlan id routed =>
        obtain ⟨statement, hs, rfl⟩ := Option.map_eq_some_iff.mp h
        exact plain_of_vlanStatement hl hs
      | port id =>
        obtain ⟨statement, hs, rfl⟩ := Option.map_eq_some_iff.mp h
        exact plain_of_portStatement hl hs

theorem plain_actions {text : Text} {a : Action} (h : a ∈ actions text) : a.Plain := by
  obtain ⟨block, line, hl, hread⟩ := Block.exists_line_of_mem h
  exact plain_of_read (significant_of_mem hl) hread

/-- What every VLAN record read from a configuration satisfies, under its key. -/
structure PlainVlan (key : Text) (vlan : Vlan) : Prop where
  id : vlan.id = key
  voice : vlan.voice = false
  name : ∀ name, vlan.name = some name → OneLine name ∧ '"' ∉ name
  address : ∀ address, vlan.address = some address → Significant address

theorem PlainVlan.onVlan {key : Text} {vlan : Vlan} (h : PlainVlan key vlan) {a : Action}
    (ha : a.Plain) : PlainVlan key (a.onVlan key vlan) := by
  cases a with
  | inVlan id statement =>
    rw [Action.onVlan]
    split
    · cases statement with
      | name text => exact ⟨h.id, h.voice, fun _ e => Option.some.inj e ▸ ha, h.address⟩
      | address text => exact ⟨h.id, h.voice, h.name, fun _ e => Option.some.inj e ▸ ha⟩
    · exact h
  | inPort id statement =>
    -- membership leaves every other field as it is
    have same : ∀ v : Vlan, PlainVlan key v → PlainVlan key (v.addUntagged id) ∧
        PlainVlan key (v.addTagged id) :=
      fun v hv => ⟨⟨hv.id, hv.voice, hv.name, hv.address⟩, ⟨hv.id, hv.voice, hv.name, hv.address⟩⟩
    rw [Action.onVlan, PortStatement.join]
    split <;> split
    · exact (same _ (same _ h).1).2
    · exact (same _ h).2
    · exact (same _ h).1
    · exact h
  | _ => exact h

theorem plainVlan_replay {as : List Action} (h : ∀ a ∈ as, a.Plain) {key : Text} {vlan : Vlan}
    (hget : (replay start as).vlans.get? key = some vlan) : PlainVlan key vlan := by
  refine vlan_induction (P := fun as vlan => (∀ a ∈ as, a.Plain) → PlainVlan key vlan)
    ?_ ?_ hget h
  · intro as _ _
    exact ⟨rfl, rfl, by simp, by simp⟩
  · intro as a vlan _ ih hall
    exact (ih fun b hb => hall b (by simp [hb])).onVlan (hall a (by simp))

theorem plain_kept_foldl {statements : List PortStatement} (h : ∀ s ∈ statements, s.Plain)
    {port : Port} (hport : ∀ k ∈ port.kept, k.Plain) :
    ∀ k ∈ (statements.foldl (fun r s => s.apply r) port).kept, k.Plain := by
  induction statements generalizing port with
  | nil => exact hport
  | cons s statements ih =>
    apply ih fun t ht => h t (by simp [ht])
    have hs := h s (by simp)
    cases s with
    | power enabled kept => cases kept <;> simpa [PortStatement.apply, Port.keep, or_imp,
        forall_and, KeptStatement.Plain] using hport
    | trunk vlans => simpa only [PortStatement.apply, foldl_addTrunkVlan] using hport
    | description text =>
      intro k hk
      rcases List.mem_append.mp hk with hk | hk
      · exact hport k hk
      · exact List.mem_singleton.mp hk ▸ hs
    | shut =>
      intro k hk
      rcases List.mem_append.mp hk with hk | hk
      · exact hport k hk
      · exact List.mem_singleton.mp hk ▸ trivial
    | _ => exact hport

end Ios

end SwitchDialects
