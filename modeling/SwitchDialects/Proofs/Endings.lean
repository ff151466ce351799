import SwitchDialects.Proofs.Ios.Printed
import SwitchDialects.Proofs.ProCurve.Blocks
import SwitchDialects.Proofs.ProCurve.Fitting

/-!
# How an output ends

No output is empty and none ends its last line. Only the last line counts for this: it is a
statement of the writer or the header of a port, and whatever a profile says stands before the
number of the port or in a line that another follows.
-/

namespace SwitchDialects

namespace Text

/-- A text that is not empty and does not end its last line. -/
def Unterminated (t : Text) : Prop := ∃ c, t.getLast? = some c ∧ c ≠ '\n'

theorem Unterminated.of_oneLine {t : Text} (hne : t ≠ []) (h : OneLine t) : Unterminated t :=
  ⟨t.getLast hne, List.getLast?_eq_some_getLast hne,
    fun hlast => h (hlast ▸ List.getLast_mem hne)⟩

theorem Unterminated.ne_nil {t : Text} (h : Unterminated t) : t ≠ [] := by
  rintro rfl
  obtain ⟨c, hlast, _⟩ := h
  cases hlast

/-- What stands before the last characters does not matter. -/
theorem Unterminated.append {t : Text} (h : Unterminated t) (front : Text) :
    Unterminated (front ++ t) := by
  obtain ⟨c, hlast, hc⟩ := h
  exact ⟨c, by rw [List.getLast?_append, hlast, Option.some_or], hc⟩

theorem Unterminated.getLast?_ne {t : Text} (h : Unterminated t) : t.getLast? ≠ some '\n' := by
  obtain ⟨c, hlast, hc⟩ := h
  rw [hlast]
  exact fun hsame => hc (Option.some.inj hsame)

theorem Unterminated.terminated {t : Text} (h : Unterminated t) :
    Text.terminated t = t ++ ['\n'] := by
  obtain ⟨c, hlast, hc⟩ := h
  simp [Text.terminated, hlast, hc]

/-- A joined text ends as its last part does. -/
theorem unterminated_joinWith {separator last : Text} (h : Unterminated last)
    (parts : List Text) : Unterminated (joinWith separator (parts ++ [last])) := by
  induction parts with
  | nil => simpa [joinWith] using h
  | cons part parts ih =>
    obtain ⟨next, rest, hrest⟩ : ∃ next rest, parts ++ [last] = next :: rest :=
      List.exists_cons_of_ne_nil (by simp)
    rw [List.cons_append, hrest, joinWith, List.intercalate_cons_cons, ← hrest]
    exact ih.append _

end Text

open Text

namespace Outline

variable {indent : Nat} {lines more : List Line}

/-- An outline with a last line that is not empty and does not end in a line feed. -/
def Closes (indent : Nat) (lines : List Line) : Prop :=
  ∃ front line, lines = front ++ [line] ∧ Unterminated (line.render indent)

theorem Closes.append (h : Closes indent more) (lines : List Line) :
    Closes indent (lines ++ more) := by
  obtain ⟨front, line, rfl, hline⟩ := h
  exact ⟨lines ++ front, line, (List.append_assoc ..).symm, hline⟩

/-- More lines of the same kind may follow, or none. -/
theorem Closes.append_of_forall (h : Closes indent lines)
    (hmore : ∀ line ∈ more, Unterminated (line.render indent)) : Closes indent (lines ++ more) := by
  rcases List.eq_nil_or_concat' more with rfl | ⟨front, line, rfl⟩
  · rwa [List.append_nil]
  · exact ⟨lines ++ front, line, (List.append_assoc ..).symm, hmore line (by simp)⟩

/-- More blocks may follow, or none. -/
theorem Closes.append_flatMap {α : Type} {items : List α} {f : α → List Line}
    (h : Closes indent lines) (hitems : ∀ x ∈ items, Closes indent (f x)) :
    Closes indent (lines ++ items.flatMap f) := by
  rcases List.eq_nil_or_concat' items with rfl | ⟨front, x, rfl⟩
  · rwa [List.flatMap_nil, List.append_nil]
  · have hlast : Closes indent (f x) := hitems x (by simp)
    rw [List.flatMap_append, List.flatMap_singleton, ← List.append_assoc]
    exact hlast.append _

theorem Closes.render (h : Closes indent lines) : Unterminated (Outline.render indent lines) := by
  obtain ⟨front, line, rfl, hline⟩ := h
  rw [Outline.render, List.map_append]
  exact unterminated_joinWith hline _

end Outline

open Outline

namespace AosCx

variable {source : Dialect} {profile : SiteProfile}

theorem unterminated_member {t : Text} (h : OneLine t) :
    Unterminated (Line.render indent (.member t)) :=
  .of_oneLine (by simp [Line.render, indent]) (Line.oneLine_render h)

/-- A block ends with its header, with a setting or with a list of VLANs. -/
theorem closes_portBlock {port : Port} (h : FittingPort port) (hid : port.id ≠ []) :
    Closes indent (portBlock source profile port) := by
  have hheader : Unterminated (portHeader profile port.id) :=
    Unterminated.append (.of_oneLine hid h.id) _
  have hsettings : Closes indent (.flush (portHeader profile port.id) ::
      (settingLines port).map Line.member) := by
    have hfirst : Closes indent [.flush (portHeader profile port.id)] := ⟨[], _, rfl, hheader⟩
    refine hfirst.append_of_forall fun line hline => ?_
    obtain ⟨t, ht, rfl⟩ := List.mem_map.mp hline
    exact unterminated_member (oneLine_settingLines h t ht)
  have hblock : portBlock source profile port =
      (.flush (portHeader profile port.id) :: (settingLines port).map Line.member) ++
        (membershipLines (port.membership source profile)).map .member := by
    rw [portBlock, portLines_eq, List.map_append]
    rfl
  rw [hblock, Port.membership]
  split
  · have hallowed : OneLine ("vlan trunk allowed ".toList ++ joinWith [','] port.allowedVlans) := by
      refine OneLine.append (by decide) fun hc => ?_
      rcases mem_joinWith hc with hc | ⟨vlan, hvlan, hc⟩
      · exact absurd hc (by decide)
      · exact h.vlans vlan (holds_of_mem_allowedVlans hvlan) hc
    have hlast : Closes indent
        [.member ("vlan trunk allowed ".toList ++ joinWith [','] port.allowedVlans)] :=
      ⟨[], _, rfl, unterminated_member hallowed⟩
    -- the line before it names the native VLAN, which may be that of the profile
    exact (hlast.append [.member ("vlan trunk native ".toList ++ port.trunkNative profile)]).append _
  · cases haccess : port.accessVlan with
    | some vlan =>
      have honly : OneLine ("vlan access ".toList ++ vlan) :=
        OneLine.append (by decide) (h.vlans vlan (.access haccess))
      have hlast : Closes indent [.member ("vlan access ".toList ++ vlan)] :=
        ⟨[], _, rfl, unterminated_member honly⟩
      exact hlast.append _
    | none =>
      rw [membershipLines, List.map_nil, List.append_nil]
      exact hsettings

theorem closes_outline {network : Network} (fitting : FittingNetwork network)
    (hids : ∀ port ∈ network.ports.values, port.id ≠ []) :
    Closes indent (outline network profile) := by
  have htree : Closes indent
      [.flush "spanning-tree mode rpvst".toList, .flush "spanning-tree".toList] :=
    ⟨[.flush "spanning-tree mode rpvst".toList], _, rfl, .of_oneLine (by decide) (by decide)⟩
  refine Closes.append_flatMap (htree.append _) fun port hport => ?_
  have hmem := (NumericOrder.sortBy_perm Port.id _).mem_iff.mp hport
  exact closes_portBlock (fitting.ports port hmem) (hids port hmem)

theorem unterminated_write {network : Network} (fitting : FittingNetwork network)
    (hids : ∀ port ∈ network.ports.values, port.id ≠ []) (profile : SiteProfile) :
    Unterminated (write network profile) := by
  refine Closes.render (closes_outline (fitting.prepare profile) fun port hport => ?_)
  obtain ⟨key, record, hget, rfl⟩ := mem_values_prepare hport
  rw [id_withVoiceNative]
  exact hids record (OrderedMap.mem_values_iff.mpr ⟨key, hget⟩)

end AosCx

namespace ProCurve

theorem unterminated_write {network : Network} (h : LegibleNetwork network)
    (profile : SiteProfile) : Unterminated (write network profile) := by
  have hwarning : Closes indent (warning.map .flush) :=
    ⟨(warning.map .flush).dropLast, .flush "; =========================== ".toList, rfl,
      .of_oneLine (by decide) (by decide)⟩
  have hbody : ∀ line ∈ (network.device.filterMap deviceLine?).map Line.flush ++
      network.vlans.values.flatMap (vlanBlock profile) ++ network.ports.values.flatMap portBlock,
      Unterminated (line.render indent) := by
    intro line hline
    have hsignificant := significant_body h profile line hline
    have hrender : Unterminated line.text :=
      .of_oneLine hsignificant.ne_nil hsignificant.oneLine
    cases line with
    | flush text => exact hrender
    | member text => exact hrender.append _
  have hlines : outline network profile = warning.map .flush ++
      ((network.device.filterMap deviceLine?).map .flush ++
        network.vlans.values.flatMap (vlanBlock profile) ++
          network.ports.values.flatMap portBlock) := by
    rw [outline, List.append_assoc, List.append_assoc, List.append_assoc]
  rw [write, hlines]
  exact (hwarning.append_of_forall hbody).render

end ProCurve

/-- No output is empty, and none ends its last line. -/
theorem unterminated_output (d : Direction) (text : Text) (profile : SiteProfile) :
    Unterminated (d.translate text profile).output := by
  cases d with
  | iosToAosCx =>
    refine AosCx.unterminated_write (Ios.fitting text) (fun port hport => ?_) profile
    exact (Decimal.significant_of_isNumber ((Ios.legible text).ports port hport).id).ne_nil
  | proCurveToAosCx =>
    exact AosCx.unterminated_write (ProCurve.fitting text) (ProCurve.portId_ne_nil text) profile
  | iosToProCurve => exact ProCurve.unterminated_write (Ios.legible text) profile

end SwitchDialects
