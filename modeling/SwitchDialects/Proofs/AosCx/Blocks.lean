import SwitchDialects.Writer
import SwitchDialects.Proofs.Text.Lines
import SwitchDialects.Proofs.Text.NumericOrder

/-!
# Membership in an AOS-CX text

The statements about VLANs in the block of a port, found by reading the text from the header of the
block to the next line at the margin. Most lines have no influence on what is found: those inside
blocks that are about something else. Two texts agree on the membership of every port if they agree
on all other lines.
-/

namespace SwitchDialects.AosCx

open Text

/-- Whether a line stands inside a block. -/
def isInner (line : Text) : Bool := "    ".toList.isPrefixOf line

/-- Whether a line says to which VLANs a port belongs. -/
def isMembership (line : Text) : Bool := "    vlan ".toList.isPrefixOf line

def portHeader (profile : SiteProfile) (id : Text) : Text :=
  "interface ".toList ++ profile.portStem ++ id

/-- The statements about VLANs in the block that a header opens. -/
def membershipUnder (header : Text) (lines : List Text) : List Text :=
  ((lines.dropWhile (· != header)).tail.takeWhile isInner).filter isMembership

/-- The statements about VLANs in the block of a port. -/
def membershipOf (profile : SiteProfile) (id output : Text) : List Text :=
  membershipUnder (portHeader profile id) (output.splitOn '\n')

/-- Whether a line may have to do with what is found. -/
def matters (line : Text) : Bool := isMembership line || !isInner line

theorem isInner_portHeader (profile : SiteProfile) (id : Text) :
    isInner (portHeader profile id) = false := rfl

/-- Before the header nothing matters. -/
theorem membershipUnder_append {header : Text} {front : List Text} (h : header ∉ front)
    (rest : List Text) : membershipUnder header (front ++ rest) = membershipUnder header rest := by
  have hskip : ∀ line ∈ front, (line != header) = true := by
    intro line hline
    have : line ≠ header := fun e => h (e ▸ hline)
    simpa using this
  rw [membershipUnder, List.dropWhile_append_of_pos hskip, membershipUnder]

theorem filter_takeWhile_matters (lines : List Text) :
    ((lines.filter matters).takeWhile isInner).filter isMembership =
      (lines.takeWhile isInner).filter isMembership := by
  induction lines with
  | nil => rfl
  | cons line lines ih =>
    by_cases hinner : isInner line = true
    · by_cases hmember : isMembership line = true
      · have hmatters : matters line = true := by simp [matters, hmember]
        rw [List.filter_cons_of_pos hmatters, List.takeWhile_cons_of_pos hinner,
          List.takeWhile_cons_of_pos hinner, List.filter_cons_of_pos hmember,
          List.filter_cons_of_pos hmember, ih]
      · have hmatters : ¬ matters line = true := by simp [matters, hmember, hinner]
        rw [List.filter_cons_of_neg hmatters, List.takeWhile_cons_of_pos hinner,
          List.filter_cons_of_neg hmember, ih]
    · have hmatters : matters line = true := by simp [matters, hinner]
      rw [List.filter_cons_of_pos hmatters, List.takeWhile_cons_of_neg hinner,
        List.takeWhile_cons_of_neg hinner]

/-- Lines inside blocks that are about something else may be left out. -/
theorem membershipUnder_filter {header : Text} (h : isInner header = false) (lines : List Text) :
    membershipUnder header (lines.filter matters) = membershipUnder header lines := by
  induction lines with
  | nil => rfl
  | cons line lines ih =>
    by_cases hline : line = header
    · have hmatters : matters header = true := by simp [matters, h]
      have hstop (rest : List Text) : (header :: rest).dropWhile (· != header) = header :: rest :=
        List.dropWhile_cons_of_neg (by simp)
      rw [hline, List.filter_cons_of_pos hmatters, membershipUnder, membershipUnder, hstop, hstop,
        List.tail_cons, List.tail_cons, filter_takeWhile_matters]
    · have hskip : header ∉ [line] := by simpa using Ne.symm hline
      have hrest := membershipUnder_append hskip lines
      by_cases hmatters : matters line = true
      · rw [List.filter_cons_of_pos hmatters]
        exact (membershipUnder_append hskip _).trans (ih.trans hrest.symm)
      · rw [List.filter_cons_of_neg hmatters]
        exact ih.trans hrest.symm

/-- The lines that an outline is rendered to. -/
def rendered (lines : List Line) : List Text :=
  lines.flatMap fun line => (line.render indent).splitOn '\n'

def mattering (lines : List Line) : List Text := (rendered lines).filter matters

theorem mattering_append (lines more : List Line) :
    mattering (lines ++ more) = mattering lines ++ mattering more := by
  rw [mattering, rendered, List.flatMap_append, List.filter_append]
  rfl

theorem mattering_flatMap {α : Type} (f : α → List Line) (items : List α) :
    mattering (items.flatMap f) = items.flatMap fun x => mattering (f x) := by
  induction items with
  | nil => rfl
  | cons x items ih => rw [List.flatMap_cons, List.flatMap_cons, mattering_append, ih]

/-- Of the members of a block those about VLANs matter. -/
theorem mattering_members {ts : List Text} (h : ∀ t ∈ ts, OneLine t) :
    mattering (ts.map .member) =
      (ts.filter "vlan ".toList.isPrefixOf).map fun t => Line.render indent (.member t) := by
  induction ts with
  | nil => rfl
  | cons t ts ih =>
    have hline : OneLine (Line.render indent (.member t)) := OneLine.append (by decide) (h t (by simp))
    have hmatters : matters (Line.render indent (.member t)) = "vlan ".toList.isPrefixOf t := by
      have hinner : isInner (Line.render indent (.member t)) = true := rfl
      have hmember : isMembership (Line.render indent (.member t)) =
          "vlan ".toList.isPrefixOf t := rfl
      rw [matters, hinner, hmember, Bool.not_true, Bool.or_false]
    have hcons : mattering ((t :: ts).map .member) =
        mattering [.member t] ++ mattering (ts.map .member) := mattering_append [.member t] _
    have hone : mattering [.member t] = [Line.render indent (.member t)].filter matters := by
      rw [mattering, rendered, List.flatMap_singleton, List.splitOn_eq_singleton hline]
    rw [hcons, ih fun u hu => h u (by simp [hu]), hone]
    by_cases ht : "vlan ".toList.isPrefixOf t = true
    · rw [List.filter_cons_of_pos (hmatters.trans ht), List.filter_cons_of_pos ht]
      rfl
    · rw [List.filter_cons_of_neg (by rwa [hmatters]), List.filter_cons_of_neg ht]
      rfl

theorem isPrefixOf_membershipLines {membership : Membership} :
    ∀ t ∈ membershipLines membership, "vlan ".toList.isPrefixOf t = true := by
  intro t ht
  cases membership with
  | trunk native allowed => rcases List.mem_pair.mp ht with rfl | rfl <;> rfl
  | access vlan =>
    obtain rfl := List.mem_singleton.mp ht
    rfl
  | none => cases ht

/-- A port whose texts fit on a line each, and that has no speed. -/
structure ShortPort (port : Port) : Prop where
  description : ∀ text, port.description = some text → OneLine text
  speed : port.speed = none

/-- The members of the block of a port that are not about VLANs. -/
def settingLines (port : Port) : List Text :=
  (shutdownLine? port.shutdown).toList ++
    (if port.trustsMarking then ["qos trust cos".toList] else []) ++
    (port.description.map ("description ".toList ++ ·)).toList ++
    port.powerLine?.toList ++ (port.speed.map speedLine).toList

theorem portLines_eq (source : Dialect) (profile : SiteProfile) (port : Port) :
    portLines source profile port =
      settingLines port ++ membershipLines (port.membership source profile) := rfl

theorem settingLines_quiet {port : Port} (h : ShortPort port) :
    ∀ t ∈ settingLines port, OneLine t ∧ "vlan ".toList.isPrefixOf t = false := by
  intro t ht
  simp only [settingLines, List.append_assoc, List.mem_append, Option.mem_toList,
    Option.map_eq_some_iff, h.speed, reduceCtorEq, false_and, exists_false, or_false] at ht
  rcases ht with ht | ht | ⟨text, htext, rfl⟩ | ht
  · cases hs : port.shutdown <;> rw [hs] at ht <;> cases ht <;> decide
  · split at ht
    · rw [List.mem_singleton.mp ht]
      decide
    · cases ht
  · exact ⟨OneLine.append (by decide) (h.description text htext), rfl⟩
  · rw [Port.powerLine?] at ht
    split at ht
    · cases ht
    · cases ht
      decide
    · cases ht
      decide

/-- A statement about VLANs in the block of a port is one about its membership. -/
theorem mem_membershipLines {source : Dialect} {profile : SiteProfile} {port : Port} {t : Text}
    (short : ShortPort port) (ht : t ∈ portLines source profile port)
    (hvlan : "vlan ".toList.isPrefixOf t = true) :
    t ∈ membershipLines (port.membership source profile) := by
  rw [portLines_eq] at ht
  refine (List.mem_append.mp ht).resolve_left fun hsetting => ?_
  rw [(settingLines_quiet short t hsetting).2] at hvlan
  cases hvlan

/-- Of the block of a port only its header and the statements about VLANs matter. -/
theorem mattering_portBlock {source : Dialect} {profile : SiteProfile} {port : Port}
    (h : ShortPort port) :
    mattering (portBlock source profile port) =
      mattering [.flush (portHeader profile port.id)] ++
        mattering ((membershipLines (port.membership source profile)).map .member) := by
  have hquiet : mattering ((settingLines port).map .member) = [] := by
    have hother : ∀ t ∈ settingLines port, ¬ "vlan ".toList.isPrefixOf t = true := by
      intro t ht
      rw [(settingLines_quiet h t ht).2]
      decide
    rw [mattering_members fun t ht => (settingLines_quiet h t ht).1,
      List.filter_eq_nil_iff.mpr hother]
    rfl
  have hblock : portBlock source profile port =
      [.flush (portHeader profile port.id)] ++ ((settingLines port).map .member ++
        (membershipLines (port.membership source profile)).map .member) := by
    rw [portBlock, portLines_eq, List.map_append]
    rfl
  rw [hblock, mattering_append, mattering_append, hquiet, List.nil_append]

/-- Two networks that are written with the same membership for every port. -/
structure SameMembership (profile : SiteProfile) (a b : Network) : Prop where
  vlanIds : (a.vlans.values.map Vlan.id).Perm (b.vlans.values.map Vlan.id)
  vlans : ∀ v ∈ a.vlans.values, ∀ w ∈ b.vlans.values, v.id = w.id →
    vlanBlock profile v = vlanBlock profile w
  portIds : (a.ports.values.map Port.id).Perm (b.ports.values.map Port.id)
  ports : ∀ p ∈ a.ports.values, ∀ q ∈ b.ports.values, p.id = q.id →
    p.membership a.source profile = q.membership b.source profile

structure ShortNetwork (network : Network) : Prop where
  hostname : ∀ name, network.hostname? = some name → OneLine name
  location : ∀ text, network.location? = some text → OneLine text
  ports : ∀ port ∈ network.ports.values, ShortPort port

/-- The lines of a configuration after those about the device. -/
def body (network : Network) (profile : SiteProfile) : List Line :=
  (NumericOrder.sortBy Vlan.id network.vlans.values).flatMap (vlanBlock profile) ++
    [.flush "spanning-tree mode rpvst".toList, .flush "spanning-tree".toList] ++
    (NumericOrder.sortBy Port.id network.ports.values).flatMap
      (portBlock network.source profile)

theorem outline_eq (network : Network) (profile : SiteProfile) :
    outline network profile = deviceLines network ++ body network profile := by
  rw [outline, body]
  simp only [List.append_assoc]

theorem mattering_body_eq {profile : SiteProfile} {a b : Network}
    (same : SameMembership profile a b) (ha : ShortNetwork a) (hb : ShortNetwork b) :
    mattering (body a profile) = mattering (body b profile) := by
  have hvlans : (NumericOrder.sortBy Vlan.id a.vlans.values).flatMap (vlanBlock profile) =
      (NumericOrder.sortBy Vlan.id b.vlans.values).flatMap (vlanBlock profile) :=
    NumericOrder.flatMap_sortBy_eq same.vlanIds same.vlans
  have hports : mattering ((NumericOrder.sortBy Port.id a.ports.values).flatMap
        (portBlock a.source profile)) =
      mattering ((NumericOrder.sortBy Port.id b.ports.values).flatMap
        (portBlock b.source profile)) := by
    rw [mattering_flatMap, mattering_flatMap]
    refine NumericOrder.flatMap_sortBy_eq same.portIds fun p hp q hq hid => ?_
    rw [mattering_portBlock (ha.ports p hp), mattering_portBlock (hb.ports q hq), hid,
      same.ports p hp q hq hid]
  rw [body, body, mattering_append, hports, hvlans, ← mattering_append]

/-- No line about the device is the header of a port. -/
theorem portHeader_notMem_device {network : Network} (h : ShortNetwork network)
    (profile : SiteProfile) (id : Text) : portHeader profile id ∉ rendered (deviceLines network) := by
  intro hmem
  obtain ⟨line, hline, hmem⟩ := List.mem_flatMap.mp hmem
  rw [deviceLines, List.mem_append, Option.mem_toList, Option.mem_toList,
    Option.map_eq_some_iff, Option.map_eq_some_iff] at hline
  rcases hline with ⟨name, hname, rfl⟩ | ⟨text, htext, rfl⟩
  · have hone : OneLine ("hostname ".toList ++ name) :=
      OneLine.append (by decide) (h.hostname name hname)
    rw [Line.render, List.splitOn_eq_singleton hone, List.mem_singleton] at hmem
    cases hmem
  · have hone : OneLine ("snmp-server system-location ".toList ++ text) :=
      OneLine.append (by decide) (h.location text htext)
    rw [Line.render, List.splitOn_eq_singleton hone, List.mem_singleton] at hmem
    cases hmem

/-- The lines of the text are those that the outline is rendered to. -/
theorem splitOn_render_outline (network : Network) (profile : SiteProfile) :
    (Outline.render indent (outline network profile)).splitOn '\n' =
      rendered (outline network profile) := by
  have hne : (outline network profile).map (Line.render indent) ≠ [] := by
    simp [outline]
  rw [Outline.render, splitOn_joinWith hne, List.flatMap_map]
  rfl

theorem membershipOf_render {network : Network} (h : ShortNetwork network) (profile : SiteProfile)
    (id : Text) :
    membershipOf profile id (Outline.render indent (outline network profile)) =
      membershipUnder (portHeader profile id) (mattering (body network profile)) := by
  rw [membershipOf, splitOn_render_outline, rendered, outline_eq, List.flatMap_append]
  exact (membershipUnder_append (portHeader_notMem_device h profile id) _).trans
    (membershipUnder_filter (isInner_portHeader profile id) _).symm

/-- Networks with the same membership are written with the same statements about VLANs. -/
theorem membershipOf_render_eq {profile : SiteProfile} {a b : Network}
    (same : SameMembership profile a b) (ha : ShortNetwork a) (hb : ShortNetwork b) (id : Text) :
    membershipOf profile id (Outline.render indent (outline a profile)) =
      membershipOf profile id (Outline.render indent (outline b profile)) := by
  rw [membershipOf_render ha, membershipOf_render hb, mattering_body_eq same ha hb]

inductive Holds (port : Port) (vlan : Text) : Prop where
  | native (h : port.nativeVlan = some vlan)
  | access (h : port.accessVlan = some vlan)
  | voice (h : port.voiceVlan = some vlan)
  | trunk (h : vlan ∈ port.trunkVlans)

theorem holds_of_mem_allowedVlans {port : Port} {vlan : Text} (h : vlan ∈ port.allowedVlans) :
    Holds port vlan := by
  rw [Port.allowedVlans, (NumericOrder.sortBy_perm _ _).mem_iff, mem_foldl_appendNew] at h
  simp only [List.not_mem_nil, false_or, List.mem_filter, List.mem_append,
    Option.mem_toList] at h
  rcases h.1 with (htrunk | haccess) | hvoice
  · exact .trunk htrunk
  · exact .access haccess
  · exact .voice hvoice

/-- The statements about VLANs fit on a line each if the VLANs of the port and of the site do. -/
theorem oneLine_membershipLines {port : Port} {source : Dialect} {profile : SiteProfile}
    (hport : ∀ vlan, Holds port vlan → OneLine vlan) (hsite : OneLine profile.nativeVlan) :
    ∀ t ∈ membershipLines (port.membership source profile), OneLine t := by
  intro t ht
  rw [Port.membership] at ht
  split at ht
  · rcases List.mem_pair.mp ht with rfl | rfl
    · refine OneLine.append (by decide) ?_
      rw [Port.trunkNative]
      cases hnative : port.nativeVlan with
      | some vlan => exact hport vlan (.native hnative)
      | none =>
        cases haccess : port.accessVlan with
        | some vlan => exact hport vlan (.access haccess)
        | none => exact hsite
    · refine OneLine.append (by decide) fun hc => ?_
      rcases mem_joinWith hc with hc | ⟨vlan, hvlan, hc⟩
      · exact absurd hc (by decide)
      · exact hport vlan (holds_of_mem_allowedVlans hvlan) hc
  · split at ht
    · rename_i vlan haccess
      obtain rfl := List.mem_singleton.mp ht
      exact OneLine.append (by decide) (hport vlan (.access haccess))
    · cases ht

structure FittingPort (port : Port) : Prop where
  id : OneLine port.id
  description : ∀ text, port.description = some text → OneLine text
  speed : ∀ setting, port.speed = some setting → OneLine setting
  vlans : ∀ vlan, Holds port vlan → OneLine vlan

/-- A network whose texts, so far as they are written, fit on a line each. -/
structure FittingNetwork (network : Network) : Prop where
  hostname : ∀ name, network.hostname? = some name → OneLine name
  location : ∀ text, network.location? = some text → OneLine text
  vlans : ∀ vlan ∈ network.vlans.values,
    OneLine vlan.id ∧ ∀ name, vlan.name = some name → OneLine name
  ports : ∀ port ∈ network.ports.values, FittingPort port

end SwitchDialects.AosCx
