import Mathlib.Data.List.Infix
import SwitchDialects.Dialect
import SwitchDialects.Proofs.Ios.Printed
import SwitchDialects.Proofs.ProCurve.Blocks
import SwitchDialects.Proofs.ProCurve.Fitting
import SwitchDialects.Proofs.Text.LetterCase

/-!
# Recognizing an output

A line votes by how it begins, so the keyword of a written line settles which dialects it may vote
for, whatever follows. In an AOS-CX configuration the lines against it are those of the ports that
supply no power, at most one for each port, and the header of every port outweighs them; the
spanning tree tips the balance. In a ProCurve configuration there is no line against it.
-/

namespace SwitchDialects

open Text

namespace Dialect

/-- How the lines begin, in lower case, that vote for a dialect. -/
def openings : Dialect → List Text
  | ios => iosOpenings
  | proCurve => "no power-over-ethernet".toList :: proCurveOpenings
  | aosCx => "spanning-tree mode rpvst".toList :: aosCxOpenings

def mayVote (d : Dialect) (line : Text) : Bool :=
  d.openings.any (·.isPrefixOf (lower (line.dropWhile isBlank)))

theorem mayVote_of_vote? {d : Dialect} {line : Text} (h : vote? (trim line) = some d) :
    d.mayVote line = true := by
  have hprefix : lower (trim line) <+: lower (line.dropWhile isBlank) := by
    refine List.IsPrefix.map _ ?_
    rw [trim, stripEnds, ← List.reverse_suffix, List.reverse_reverse]
    exact List.dropWhile_suffix isBlank
  have hopening {opening : Text} (hmem : opening ∈ d.openings)
      (hstart : opening <+: lower (trim line)) : d.mayVote line = true :=
    List.any_eq_true.mpr ⟨opening, hmem, List.isPrefixOf_iff_prefix.mpr (hstart.trans hprefix)⟩
  have hany {heads : List Text} (hsub : ∀ opening ∈ heads, opening ∈ d.openings)
      (h : heads.any (·.isPrefixOf (lower (trim line))) = true) : d.mayVote line = true := by
    obtain ⟨opening, hmem, hstart⟩ := List.any_eq_true.mp h
    exact hopening (hsub opening hmem) (List.isPrefixOf_iff_prefix.mp hstart)
  simp only [vote?] at h
  split at h
  · rename_i hios
    cases h
    exact hany (fun _ => id) hios
  · split at h
    · rename_i hproCurve
      cases h
      rcases Bool.or_eq_true_iff.mp hproCurve with hstart | hwhole
      · exact hany (fun _ => List.mem_cons_of_mem _) hstart
      · exact hopening List.mem_cons_self (beq_iff_eq.mp hwhole ▸ List.prefix_rfl)
    · split at h
      · rename_i haosCx
        cases h
        rcases Bool.or_eq_true_iff.mp haosCx with hstart | hwhole
        · exact hany (fun _ => List.mem_cons_of_mem _) hstart
        · exact hopening List.mem_cons_self (beq_iff_eq.mp hwhole ▸ List.prefix_rfl)
      · cases h

/-- Every line of a text has one vote, or none. -/
theorem votes_eq_countP (text : Text) (d : Dialect) :
    votes text d = (text.splitOn '\n').countP fun line => vote? (trim line) == some d := by
  rw [votes, significantLines, List.count, List.countP_filterMap, List.countP_filter,
    List.countP_map]
  refine List.countP_congr fun line _ => ?_
  have hnobody : vote? [] = none := by decide
  by_cases hempty : trim line = []
  · simp [hempty, hnobody]
  · cases hvote : vote? (trim line) <;> simp [hvote, hempty]

/-- The votes of an outline are those of its lines. -/
theorem votes_render {indent : Nat} {lines : List Line} (hne : lines ≠ [])
    (oneLine : ∀ line ∈ lines, OneLine line.text) (d : Dialect) :
    votes (Outline.render indent lines) d =
      lines.countP fun line => vote? (trim line.text) == some d := by
  rw [votes_eq_countP, Outline.splitOn_render hne oneLine, List.countP_map]
  refine List.countP_congr fun line _ => ?_
  have htrim : trim (line.render indent) = trim line.text := by
    cases line with
    | flush text => rfl
    | member text =>
      refine trim_append_of_blank _ text fun c hc => ?_
      rw [List.eq_of_mem_replicate hc]
      decide
  rw [Function.comp_apply, htrim]

def opposes (d : Dialect) (line : Text) : Bool :=
  [ios, proCurve, aosCx].any fun other => other != d && other.mayVote line

theorem mayVote_of_opposes {d : Dialect} {line : Text} (h : d.opposes line = true) :
    ∃ other, other ≠ d ∧ other.mayVote line = true := by
  obtain ⟨other, _, hother⟩ := List.any_eq_true.mp h
  obtain ⟨hne, hvote⟩ := Bool.and_eq_true_iff.mp hother
  exact ⟨other, bne_iff_ne.mp hne, hvote⟩

theorem opposes_of_vote? {d other : Dialect} {line : Text} (h : vote? (trim line) = some other)
    (hne : other ≠ d) : d.opposes line = true :=
  List.any_eq_true.mpr ⟨other, by cases other <;> simp, by simp [hne, mayVote_of_vote? h]⟩

/-- Whether a keyword with a number may begin as a line does that votes for a dialect. -/
def claims (d : Dialect) (keyword : Text) : Bool :=
  d.openings.any fun opening => (opening.take keyword.length).isPrefixOf keyword &&
    (opening.drop keyword.length).all Char.isDigit

/-- What follows the keyword in an opening would have to be digits. -/
theorem claims_of_mayVote {d : Dialect} {keyword digits : Text}
    (hfirst : keyword.head?.any (!isBlank ·) = true) (hlower : lower keyword = keyword)
    (hdigits : Decimal.isNumber digits = true) (h : d.mayVote (keyword ++ digits) = true) :
    d.claims keyword = true := by
  have hne : keyword ≠ [] := by
    rintro rfl
    cases hfirst
  have hfront : (keyword ++ digits).dropWhile isBlank = keyword ++ digits := by
    refine dropWhile_eq_self fun c hc => ?_
    rw [List.head?_append_of_ne_nil _ hne] at hc
    simpa [hc] using hfirst
  have hnumber : lower digits = digits :=
    (List.map_congr_left fun c hc =>
      toLower_of_isDigit ((Decimal.isDigit_of_isNumber hdigits).2 c hc)).trans (List.map_id _)
  obtain ⟨opening, hopening, hstart⟩ := List.any_eq_true.mp h
  rw [hfront, lower, List.map_append, ← lower, ← lower, hlower, hnumber] at hstart
  have hprefix := List.isPrefixOf_iff_prefix.mp hstart
  refine List.any_eq_true.mpr ⟨opening, hopening, Bool.and_eq_true_iff.mpr ⟨?_, ?_⟩⟩
  · have htake := hprefix.take keyword.length
    rw [List.take_left] at htake
    exact List.isPrefixOf_iff_prefix.mpr htake
  · have hdrop := hprefix.drop keyword.length
    rw [List.drop_left] at hdrop
    exact List.all_eq_true.mpr fun c hc =>
      (Decimal.isDigit_of_isNumber hdigits).2 c (hdrop.subset hc)

def supportedBy (d : Dialect) (line : Line) : Bool := vote? (trim line.text) == some d

def opposedBy (d : Dialect) (line : Line) : Bool := d.opposes line.text

/-- An outline is recognized when more lines vote for the dialect than may vote against it. -/
theorem detect?_render {indent : Nat} {lines : List Line} {d : Dialect}
    (oneLine : ∀ line ∈ lines, OneLine line.text)
    (h : lines.countP d.opposedBy < lines.countP d.supportedBy) :
    detect? (Outline.render indent lines) = some d := by
  have hne : lines ≠ [] := by
    rintro rfl
    cases h
  rw [detect?_eq_some_iff, leads_iff]
  intro other hother
  rw [votes_render hne oneLine, votes_render hne oneLine]
  refine lt_of_le_of_lt (List.countP_mono_left fun line _ hvote => ?_) h
  exact opposes_of_vote? (beq_iff_eq.mp hvote) hother

end Dialect

open Dialect

namespace AosCx

variable {network : Network} {profile : SiteProfile}

theorem opposedBy_front {line : Line} (h : line ∈ front network profile) :
    aosCx.opposedBy line = false := by
  simp only [front, deviceLines, vlanBlock, List.mem_append, List.mem_flatMap, Option.mem_toList,
    Option.map_eq_some_iff, List.mem_cons, List.not_mem_nil, or_false] at h
  rcases h with ((⟨name, _, rfl⟩ | ⟨text, _, rfl⟩) | ⟨vlan, _, (rfl | ⟨name, _, rfl⟩) | hvoice⟩) |
    rfl | rfl
  case inl.inr.inr =>
    split at hvoice
    · obtain rfl := List.mem_singleton.mp hvoice
      rfl
    · cases hvoice
  all_goals rfl

theorem opposes_speedLine (setting : Text) : aosCx.opposes (speedLine setting) = false := by
  simp only [speedLine]
  split <;> rfl

theorem opposes_membershipLines {membership : Membership} :
    ∀ t ∈ membershipLines membership, aosCx.opposes t = false := by
  intro t ht
  cases membership with
  | trunk native allowed => rcases List.mem_pair.mp ht with rfl | rfl <;> rfl
  | access vlan =>
    obtain rfl := List.mem_singleton.mp ht
    rfl
  | none => cases ht

/-- Only the statement about power may vote for another dialect. -/
theorem countP_opposes_portLines (source : Dialect) (port : Port) :
    (portLines source profile port).countP aosCx.opposes ≤ 1 := by
  have hshutdown : (shutdownLine? port.shutdown).toList.countP aosCx.opposes = 0 := by
    cases port.shutdown <;> rfl
  have hmarking : (if port.trustsMarking then ["qos trust cos".toList] else []).countP
      aosCx.opposes = 0 := by
    split <;> rfl
  have hdescription : (port.description.map ("description ".toList ++ ·)).toList.countP
      aosCx.opposes = 0 := by
    cases port.description <;> rfl
  have hpower : port.powerLine?.toList.countP aosCx.opposes ≤ 1 :=
    List.countP_le_length.trans (by cases port.powerLine? <;> simp)
  have hspeed : (port.speed.map speedLine).toList.countP aosCx.opposes = 0 := by
    cases port.speed with
    | none => rfl
    | some setting => simp [opposes_speedLine]
  have hmembership : (membershipLines (port.membership source profile)).countP
      aosCx.opposes = 0 :=
    List.countP_eq_zero.mpr fun t ht => by simp [opposes_membershipLines t ht]
  simp only [portLines, List.countP_append]
  omega

/-- How the header of a port of the first slot begins. -/
def slotHeader : Text := "interface 1/1/".toList

theorem slotHeader_prefix (hstem : "1/1/".toList <+: profile.portStem) (id : Text) :
    ∃ rest, portHeader profile id = slotHeader ++ rest := by
  have hjoin {keyword slot rest stem : Text} (h : slot ++ rest = stem) :
      keyword ++ stem ++ id = (keyword ++ slot) ++ (rest ++ id) := by
    rw [← h, List.append_assoc, List.append_assoc, List.append_assoc]
  obtain ⟨rest, hrest⟩ := hstem
  exact ⟨rest ++ id, hjoin hrest⟩

/-- A header with a port of the first slot votes for AOS-CX. -/
theorem vote?_portHeader (hstem : "1/1/".toList <+: profile.portStem) (id : Text) :
    vote? (trim (portHeader profile id)) = some aosCx := by
  obtain ⟨rest, hheader⟩ := slotHeader_prefix hstem id
  have htrimmed : Trimmed slotHeader :=
    (significant_of_ends (by decide) (by decide) (by decide)).trimmed
  obtain ⟨after, hafter⟩ := prefix_trim htrimmed (by decide) rest
  rw [hheader, ← hafter]
  rfl

/-- The header of a port outweighs what may stand against it in its block. -/
theorem countP_portBlock (hstem : "1/1/".toList <+: profile.portStem) (source : Dialect)
    (port : Port) : (portBlock source profile port).countP aosCx.opposedBy ≤
      (portBlock source profile port).countP aosCx.supportedBy := by
  have hblock : portBlock source profile port = .flush (portHeader profile port.id) ::
      (portLines source profile port).map .member := rfl
  have hsupports : aosCx.supportedBy (.flush (portHeader profile port.id)) = true :=
    beq_iff_eq.mpr (vote?_portHeader hstem port.id)
  have hopposes : ¬ aosCx.opposedBy (.flush (portHeader profile port.id)) = true := by
    obtain ⟨rest, hheader⟩ := slotHeader_prefix hstem port.id
    have hnone : aosCx.opposedBy (.flush (slotHeader ++ rest)) = false := rfl
    rw [hheader, hnone]
    exact Bool.false_ne_true
  rw [hblock, List.countP_cons_of_neg hopposes, List.countP_cons_of_pos hsupports, List.countP_map]
  have hlines : (portLines source profile port).countP aosCx.opposes ≤ 1 :=
    countP_opposes_portLines source port
  exact hlines.trans (Nat.le_add_left 1 _)

/-- More lines of a configuration vote for AOS-CX than may vote against it. -/
theorem detect?_write (fitting : FittingNetwork network) (hstem : "1/1/".toList <+: profile.portStem)
    (hone : OneLine profile.portStem) (hsite : OneLine profile.nativeVlan) :
    detect? (write network profile) = some aosCx := by
  have hagainst : (front (prepare network profile) profile).countP aosCx.opposedBy = 0 :=
    List.countP_eq_zero.mpr fun line hline => by simp [opposedBy_front hline]
  have hfor : 0 < (front (prepare network profile) profile).countP aosCx.supportedBy := by
    have htree : .flush "spanning-tree mode rpvst".toList ∈
        front (prepare network profile) profile := by
      simp [front]
    exact List.countP_pos_iff.mpr ⟨_, htree, rfl⟩
  refine detect?_render (oneLine_outline (fitting.prepare profile) hone hsite) ?_
  have hports (ports : List Port) :
      (ports.flatMap (portBlock network.source profile)).countP aosCx.opposedBy ≤
        (ports.flatMap (portBlock network.source profile)).countP aosCx.supportedBy := by
    induction ports with
    | nil => exact le_rfl
    | cons port ports ih =>
      rw [List.flatMap_cons, List.countP_append, List.countP_append]
      exact Nat.add_le_add (countP_portBlock hstem network.source port) ih
  rw [outline_eq_blocks, List.countP_append, List.countP_append, hagainst, Nat.zero_add]
  exact lt_of_le_of_lt (hports _) (Nat.lt_add_of_pos_left hfor)

end AosCx

namespace ProCurve

/-- A header with a number is no line of another dialect. -/
theorem opposes_header {keyword digits : Text} (hfirst : keyword.head?.any (!isBlank ·) = true)
    (hlower : lower keyword = keyword)
    (hios : ios.claims keyword = false) (haosCx : aosCx.claims keyword = false)
    (hdigits : Decimal.isNumber digits = true) : proCurve.opposes (keyword ++ digits) = false := by
  refine Bool.eq_false_iff.mpr fun h => ?_
  obtain ⟨other, hne, hvote⟩ := mayVote_of_opposes h
  have hclaims := claims_of_mayVote hfirst hlower hdigits hvote
  cases other with
  | ios => exact Bool.false_ne_true (hios.symm.trans hclaims)
  | proCurve => exact hne rfl
  | aosCx => exact Bool.false_ne_true (haosCx.symm.trans hclaims)

theorem opposedBy_deviceLine {statement : DeviceStatement} {line : Text}
    (h : deviceLine? statement = some line) : proCurve.opposes line = false := by
  cases statement with
  | spanningTree mode =>
    rw [deviceLine?] at h
    split at h <;> cases h
    rfl
  | _ =>
    cases h
    rfl

theorem opposedBy_portList {keyword : String} (hkeyword : keyword = "untagged" ∨ keyword = "tagged")
    (ports : OrderedSet) : ∀ line ∈ portList keyword ports, proCurve.opposedBy line = false := by
  intro line hline
  rw [portList] at hline
  split at hline
  · cases hline
  · obtain rfl := List.mem_singleton.mp hline
    rcases hkeyword with rfl | rfl <;> rfl

theorem opposedBy_vlanBlock {vlan : Vlan} (hid : Decimal.isNumber vlan.id = true)
    (profile : SiteProfile) :
    ∀ line ∈ vlanBlock profile vlan, proCurve.opposedBy line = false := by
  intro line hline
  simp only [vlanBlock, List.append_assoc, List.mem_append, List.mem_cons, List.not_mem_nil,
    or_false, Option.mem_toList, Option.map_eq_some_iff] at hline
  rcases hline with rfl | ⟨name, _, rfl⟩ | huntagged | htagged | hvoice | rfl | rfl
  · exact opposes_header (by decide) (by decide) (by decide) (by decide) hid
  · rfl
  · exact opposedBy_portList (.inl rfl) _ line huntagged
  · exact opposedBy_portList (.inr rfl) _ line htagged
  · split at hvoice
    · obtain rfl := List.mem_singleton.mp hvoice
      rfl
    · cases hvoice
  · cases vlan.address <;> rfl
  · rfl

theorem opposedBy_portBlock {port : Port} (hid : Decimal.isNumber port.id = true) :
    ∀ line ∈ portBlock port, proCurve.opposedBy line = false := by
  intro line hline
  rw [portBlock, List.mem_append, List.mem_append, List.mem_singleton, List.mem_singleton,
    List.mem_flatMap] at hline
  rcases hline with (rfl | ⟨kept, _, hline⟩) | rfl
  · exact opposes_header (by decide) (by decide) (by decide) (by decide) hid
  · rcases kept with text | (_ | _) | _
    case shutdown => rcases List.mem_pair.mp hline with rfl | rfl <;> rfl
    all_goals
      obtain rfl := List.mem_singleton.mp hline
      rfl
  · rfl

/-- No line of a configuration may vote against ProCurve, and the warning votes for it. -/
theorem detect?_write {network : Network} (h : LegibleNetwork network) (profile : SiteProfile) :
    detect? (write network profile) = some proCurve := by
  refine detect?_render (oneLine_outline h profile) ?_
  have hagainst : (outline network profile).countP proCurve.opposedBy = 0 := by
    refine List.countP_eq_zero.mpr fun line hline => ?_
    rw [Bool.not_eq_true]
    simp only [outline, List.mem_append, List.mem_map, List.mem_filterMap, List.mem_flatMap] at hline
    rcases hline with ((⟨text, htext, rfl⟩ | ⟨text, ⟨statement, _, hs⟩, rfl⟩) |
      ⟨vlan, hvlan, hline⟩) | ⟨port, hport, hline⟩
    · exact (by decide : ∀ t ∈ warning, proCurve.opposes t = false) text htext
    · exact opposedBy_deviceLine hs
    · exact opposedBy_vlanBlock (h.vlans vlan hvlan).id profile line hline
    · exact opposedBy_portBlock (h.ports port hport).id line hline
  have hfor : 0 < (outline network profile).countP proCurve.supportedBy := by
    have hwarning : .flush "; !!! WARNING !!!".toList ∈ outline network profile := by
      simp [outline, warning]
    exact List.countP_pos_iff.mpr ⟨_, hwarning, rfl⟩
  rwa [hagainst]

end ProCurve

/-- A profile under which AOS-CX configurations are recognized: what it puts in them fits on a line,
and its ports are those of the first slot. -/
structure SiteProfile.Recognizable (profile : SiteProfile) : Prop where
  stem : OneLine profile.portStem
  site : OneLine profile.nativeVlan
  slot : "1/1/".toList <+: profile.portStem

theorem detect?_output (d : Direction) (text : Text) {profile : SiteProfile}
    (h : d.target = .aosCx → profile.Recognizable) :
    detect? (d.translate text profile).output = some d.target := by
  cases d with
  | iosToAosCx =>
    obtain ⟨hstem, hsite, hslot⟩ := h rfl
    exact AosCx.detect?_write (Ios.fitting text) hslot hstem hsite
  | proCurveToAosCx =>
    obtain ⟨hstem, hsite, hslot⟩ := h rfl
    exact AosCx.detect?_write (ProCurve.fitting text) hslot hstem hsite
  | iosToProCurve => exact ProCurve.detect?_write (Ios.legible text) profile

/-- A line feed at the end changes no vote. -/
theorem detect?_newline {text : Text} {d : Dialect} (h : detect? text = some d) :
    detect? (text ++ ['\n']) = some d := by
  have hvotes : ∀ other, votes (text ++ ['\n']) other = votes text other := by
    intro other
    exact votes_append text [] other
  rw [detect?_eq_some_iff, leads_iff] at h ⊢
  intro other hother
  rw [hvotes, hvotes]
  exact h other hother

end SwitchDialects
