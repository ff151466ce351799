import SwitchDialects.Proofs.Ios.Invariant
import SwitchDialects.Proofs.Ios.Sections
import SwitchDialects.Proofs.NumberList.Grammar
import SwitchDialects.Proofs.Text.LetterCase
import SwitchDialects.Proofs.Text.Utf8

/-!
# Ports by their numbers

A port is known by the number that its name ends in, so one port may be named in many ways. The
first header with its number creates the record, and no later one changes anything in it; a name
that ends in no digit opens nothing. Names may hold any characters: neither the test for a VLAN nor
the cut in front of the digits depends on how many bytes they take.
-/

namespace SwitchDialects

open Text

namespace Decimal

/-- The longest run of digits that a text ends in. -/
structure EndsInRun (t run : Text) : Prop where
  digits : NumberList.IsDigits run
  suffix : run <:+ t
  longest : ∀ other, NumberList.IsDigits other → other <:+ t → other.length ≤ run.length

theorem rtakeWhile_of_endsInRun {t run : Text} (h : EndsInRun t run) :
    t.rtakeWhile Char.isDigit = run := by
  obtain ⟨stem, rfl⟩ := h.suffix
  have hrun := rtakeWhile_append_of_pos h.digits.2 stem
  have hdigits : NumberList.IsDigits (stem.rtakeWhile Char.isDigit ++ run) :=
    ⟨List.append_ne_nil_of_right_ne_nil _ h.digits.1,
      fun c hc => List.mem_rtakeWhile_imp (hrun ▸ hc)⟩
  have hlength := h.longest _ hdigits (hrun ▸ List.rtakeWhile_suffix _ _)
  rw [List.length_append] at hlength
  have hnil : stem.rtakeWhile Char.isDigit = [] := List.eq_nil_of_length_eq_zero (by omega)
  rw [hrun, hnil, List.nil_append]

theorem endsInRun_rtakeWhile {t : Text} (h : t.rtakeWhile Char.isDigit ≠ []) :
    EndsInRun t (t.rtakeWhile Char.isDigit) where
  digits := ⟨h, fun _ hc => List.mem_rtakeWhile_imp hc⟩
  suffix := List.rtakeWhile_suffix _ _
  longest other hdigits hsuffix := by
    obtain ⟨stem, rfl⟩ := hsuffix
    rw [rtakeWhile_append_of_pos hdigits.2, List.length_append]
    exact Nat.le_add_left ..

theorem trailing?_eq (t : Text) : trailing? t =
    if t.rtakeWhile Char.isDigit = [] then none else some (t.rtakeWhile Char.isDigit) := by
  rw [trailing?, ← List.rtakeWhile]
  split <;> simp_all

theorem trailing?_of_endsInRun {t run : Text} (h : EndsInRun t run) : trailing? t = some run := by
  rw [trailing?_eq, rtakeWhile_of_endsInRun h, if_neg h.digits.1]

/-- A text that ends in a digit ends in a run of them. -/
theorem exists_endsInRun {t : Text} {c : Char} (hlast : t.getLast? = some c)
    (hc : c.isDigit = true) : ∃ run, EndsInRun t run := by
  obtain ⟨stem, rfl⟩ := List.getLast?_eq_some_iff.mp hlast
  refine ⟨_, endsInRun_rtakeWhile ?_⟩
  rw [List.rtakeWhile_concat_pos _ _ _ hc]
  simp

theorem trailing?_eq_none {t : Text} (h : ∀ c, t.getLast? = some c → c.isDigit = false) :
    trailing? t = none := by
  rw [trailing?_eq, if_pos]
  refine List.rtakeWhile_eq_nil_iff.mpr fun hne => ?_
  simp [h _ (List.getLast?_eq_some_getLast hne)]

end Decimal

namespace Ios

/-- A port is known by its number if this has 32 bits, and otherwise by its digits as they are. -/
theorem portId_eq {digits : Text} (h : NumberList.IsDigits digits) :
    portId digits =
      if Decimal.value digits < Decimal.limit32 then Decimal.render (Decimal.value digits)
      else digits := by
  rw [portId, Decimal.readDigits?, NumberList.isNumber_iff.mpr h]
  by_cases hsmall : Decimal.value digits < Decimal.limit32 <;> simp [hsmall]

/-- What the header of a port leaves behind: the block is open, its record is there, and there is
nothing new but this record, if it was not there before. -/
structure Opened (id : Text) (before after : State) : Prop where
  block : after.block = .port id
  record : ∃ port, after.network.ports.get? id = some port ∧ port.id = id
  existing : id ∈ before.network.ports.keys → after.network = before.network
  others : ∀ other, other ≠ id → after.network.ports.get? other = before.network.ports.get? other
  vlans : after.network.vlans = before.network.vlans
  device : after.network.device = before.network.device

theorem opened_openBlock {state : State} (keyed : state.network.Keyed) (id : Text) :
    Opened id state (state.openBlock (.interface (.port id))) where
  block := rfl
  record := by
    have hget := OrderedMap.get?_insertNew state.network.ports id { id, shutdown := .off } id
    rw [if_pos rfl] at hget
    refine ⟨_, hget, ?_⟩
    cases hbefore : state.network.ports.get? id with
    | none => rfl
    | some port => exact keyed.ports id port hbefore
  existing h := by
    have hports : state.network.ports.insertNew id { id, shutdown := .off } =
        state.network.ports := dif_pos (OrderedMap.contains_iff.mpr h)
    simp only [State.openBlock, hports]
  others other h := by
    have hget := OrderedMap.get?_insertNew state.network.ports id { id, shutdown := .off } other
    rwa [if_neg h] at hget
  vlans := rfl
  device := rfl

/-- The first four bytes of a name are `vlan`, in any letter case. -/
def NamesVlan (name : Text) : Prop :=
  ∃ front rest, name = front ++ rest ∧ (utf8 front).length = 4 ∧
    sameIgnoringCase front "vlan".toList = true

theorem toNat_lt_of_toLower {c : Char} (h : c.toLower.toNat < 128) : c.toNat < 128 := by
  rcases toLower_eq_self_or c with hsame | ⟨halpha, _⟩
  · rwa [hsame] at h
  · have := (toNat_of_isAlpha halpha).2
    omega

/-- Four bytes are tested exactly if four characters are. -/
theorem namesVlan_iff {name : Text} : NamesVlan name ↔ lower (name.take 4) = "vlan".toList := by
  have hfront {front : Text} (h : lower front = "vlan".toList) :
      front.length = 4 ∧ (utf8 front).length = 4 := by
    have hlength : front.length = 4 := by simpa [lower] using congrArg List.length h
    refine ⟨hlength, (length_utf8_of_ascii fun c hc => toNat_lt_of_toLower ?_).trans hlength⟩
    have hmem : c.toLower ∈ "vlan".toList := h ▸ List.mem_map_of_mem hc
    have hword : ("vlan".toList.all fun d => d.toNat < 128) = true := by decide
    exact of_decide_eq_true (List.all_eq_true.mp hword _ hmem)
  constructor
  · rintro ⟨front, rest, rfl, _, hsame⟩
    have hlower : lower front = "vlan".toList := by simpa [sameIgnoringCase, lower] using hsame
    rwa [List.take_left' (hfront hlower).1]
  · intro h
    refine ⟨name.take 4, name.drop 4, (List.take_append_drop ..).symm, (hfront h).2, ?_⟩
    rw [sameIgnoringCase, h]
    rfl

/-- The header of an interface among the lines of a text, for a name that is not one of a VLAN. -/
structure PortHeader (text : Text) where
  before : List Text
  line : Text
  rest : List Text
  lines : significantLines text = before ++ line :: rest
  argument : Text
  named : argument? "interface".toList line = some argument
  notVlan : ¬ NamesVlan ((words argument).headD argument)

namespace PortHeader

variable {text : Text} (header : PortHeader text)

def name : Text := (words header.argument).headD header.argument

def stateBefore : State := State.after header.before

def stateAfter : State := State.after (header.before ++ [header.line])

theorem stateAfter_eq :
    header.stateAfter = header.stateBefore.openBlock (.interface (.ofName header.name)) := by
  have hheader : Header.ofLine? header.line = some (.interface (.ofName header.name)) := by
    obtain ⟨rest, hline⟩ := exists_eq_append_of_argument? header.named
    have hvlan : argument? "vlan".toList header.line = none := by
      rw [hline]
      rfl
    rw [Header.ofLine?, hvlan, header.named]
    rfl
  have hstep : header.stateAfter = header.stateBefore.step header.line := List.foldl_concat ..
  rw [hstep, State.step, deviceStatement?_of_header hheader, hheader]

theorem keyed : header.stateBefore.network.Keyed := by
  refine (invariant_after fun line hline => ?_).keyed
  exact significant_of_mem (t := text) (header.lines ▸ List.mem_append_left _ hline)

theorem ofName_eq : Interface.ofName header.name =
    match Decimal.trailing? header.name with
    | some digits => .port (portId digits)
    | none => .other :=
  if_neg fun hvlan => header.notVlan (namesVlan_iff.mpr hvlan)

theorem opened {digits : Text} (h : Decimal.EndsInRun header.name digits) :
    Opened (portId digits) header.stateBefore header.stateAfter := by
  rw [header.stateAfter_eq, header.ofName_eq, Decimal.trailing?_of_endsInRun h]
  exact opened_openBlock header.keyed _

end PortHeader

/-- The header of a port opens the record of the number that its name ends in, in the shortest form
if the number has 32 bits, and changes nothing in a record that is there. -/
theorem port_by_number {text : Text} (header : PortHeader text) :
    ((∀ c, header.name.getLast? = some c → c.isDigit = false) →
      header.stateAfter = ⟨header.stateBefore.network, .none⟩) ∧
    (∀ c, header.name.getLast? = some c → c.isDigit = true →
      ∃ digits, Decimal.EndsInRun header.name digits) ∧
    ∀ digits, Decimal.EndsInRun header.name digits →
      (∃ stem, header.name = stem ++ digits ∧
        (utf8 stem).length = (utf8 header.name).length - trailingDigitBytes header.name) ∧
      Opened (if Decimal.value digits < Decimal.limit32 then Decimal.render (Decimal.value digits)
        else digits) header.stateBefore header.stateAfter ∧
      ∀ {otherText : Text} (other : PortHeader otherText) (otherDigits : Text),
        Decimal.EndsInRun other.name otherDigits →
        Decimal.value digits < Decimal.limit32 → Decimal.value otherDigits < Decimal.limit32 →
        (header.stateAfter.block = other.stateAfter.block ↔
          Decimal.value digits = Decimal.value otherDigits) := by
  refine ⟨fun hlast => ?closed, fun c hlast hc => Decimal.exists_endsInRun hlast hc,
    fun digits hrun => ⟨?cut, ?opened, ?same⟩⟩
  case closed =>
    rw [header.stateAfter_eq, header.ofName_eq, Decimal.trailing?_eq_none hlast]
    rfl
  case cut =>
    obtain ⟨stem, hname⟩ := hrun.suffix
    refine ⟨stem, hname.symm, ?_⟩
    rw [← hname]
    exact length_utf8_stem (hname ▸ Decimal.rtakeWhile_of_endsInRun hrun)
  case opened =>
    rw [← portId_eq hrun.digits]
    exact header.opened hrun
  case same =>
    intro otherText other otherDigits hother hsmall hothersmall
    rw [(header.opened hrun).block, (other.opened hother).block, portId_eq hrun.digits,
      portId_eq hother.digits, if_pos hsmall, if_pos hothersmall]
    constructor
    · intro h
      exact Decimal.render_injective (Block.port.inj h)
    · exact fun h => by rw [h]

/-- One port under two names, the first of them with letters outside ASCII, and a name without a
number. -/
def twoNames : Text :=
  "interface aé€1\n description Desk\n!\ninterface Gi0/01\ninterface €".toList

def firstName : PortHeader twoNames where
  before := []
  line := "interface aé€1".toList
  rest := ["description Desk", "!", "interface Gi0/01", "interface €"].map String.toList
  lines := by decide +kernel
  argument := "aé€1".toList
  named := by decide +kernel
  notVlan := by
    rw [namesVlan_iff]
    decide

def secondName : PortHeader twoNames where
  before := ["interface aé€1", "description Desk", "!"].map String.toList
  line := "interface Gi0/01".toList
  rest := ["interface €".toList]
  lines := by decide +kernel
  argument := "Gi0/01".toList
  named := by decide +kernel
  notVlan := by
    rw [namesVlan_iff]
    decide

def noNumber : PortHeader twoNames where
  before := ["interface aé€1", "description Desk", "!", "interface Gi0/01"].map String.toList
  line := "interface €".toList
  rest := []
  lines := by decide +kernel
  argument := "€".toList
  named := by decide +kernel
  notVlan := by
    rw [namesVlan_iff]
    decide

theorem twoNames_name_one_port :
    firstName.stateAfter.block = secondName.stateAfter.block ∧
      secondName.stateAfter.network = secondName.stateBefore.network ∧
      noNumber.stateAfter = ⟨noNumber.stateBefore.network, .none⟩ := by
  have hfirst : Decimal.EndsInRun firstName.name "1".toList :=
    Decimal.endsInRun_rtakeWhile (t := firstName.name) (by decide +kernel)
  have hsecond : Decimal.EndsInRun secondName.name "01".toList :=
    Decimal.endsInRun_rtakeWhile (t := secondName.name) (by decide +kernel)
  obtain ⟨-, -, hruns⟩ := port_by_number secondName
  obtain ⟨-, hopened, hsame⟩ := hruns _ hsecond
  have hlast : noNumber.name.getLast? = some '€' := by decide +kernel
  refine ⟨((hsame firstName _ hfirst (by decide) (by decide)).mpr (by decide)).symm,
    hopened.existing (by decide +kernel), (port_by_number noNumber).1 fun c hc => ?_⟩
  obtain rfl : '€' = c := Option.some.inj (hlast.symm.trans hc)
  rfl

end Ios

end SwitchDialects
