import SwitchDialects.Proofs.AosCx.Layout
import SwitchDialects.Proofs.Ios.Printed
import SwitchDialects.Proofs.ProCurve.Fitting
import SwitchDialects.Proofs.ProCurve.Layout

/-!
# The layout of an output

Nothing is lost, added or broken in two when a text is translated: line by line, the output consists
of the entries of the network that was read. What a reader takes from a text fits on a line, and
what it takes for ProCurve to quote holds no quotes, so no text can bring in a statement of its own.
-/

namespace SwitchDialects

open Text

namespace Ios

theorem canonical_of_deviceStatement? {line : Text} {statement : DeviceStatement}
    (h : deviceStatement? line = some statement) : statement.Canonical := by
  rw [deviceStatement?] at h
  rcases of_orElse_eq_some h with h | h
  · obtain ⟨name, _, rfl⟩ := Option.map_eq_some_iff.mp h
    trivial
  rcases of_orElse_eq_some h with h | h
  · split at h
    · cases h
      rfl
    · cases h
  rcases of_orElse_eq_some h with h | h
  · obtain ⟨rest, _, hwords⟩ := Option.bind_eq_some_iff.mp h
    split at hwords
    · cases hwords
    · cases hwords
      exact quote_notMem_withoutQuotes _
  · obtain ⟨place, _, rfl⟩ := Option.map_eq_some_iff.mp h
    trivial

theorem quoteFree (text : Text) : ProCurve.QuoteFree (read text) where
  device statement hs := by
    rw [device_read] at hs
    obtain ⟨line, _, hstatement⟩ := List.mem_filterMap.mp hs
    exact canonical_of_deviceStatement? hstatement
  vlans vlan hvlan name hname := by
    obtain ⟨key, hget⟩ := OrderedMap.mem_values_iff.mp hvlan
    exact ((plainVlan_read hget).name name hname).2

theorem vlanIds_read (text : Text) : (read text).vlans.values.map Vlan.id =
    ((actions text).filterMap Action.openedVlan?).foldl appendNew [] := by
  rw [OrderedMap.map_values_eq_keys (keyed_read text).vlans, read_eq_replay, vlans_keys_replay]
  rfl

theorem portIds_read (text : Text) : (read text).ports.values.map Port.id =
    ((actions text).filterMap Action.openedPort?).foldl appendNew [] := by
  rw [OrderedMap.map_values_eq_keys (keyed_read text).ports, read_eq_replay, ports_keys_replay]
  rfl

end Ios

namespace Direction

def indent : Direction → Nat
  | iosToProCurve => ProCurve.indent
  | iosToAosCx | proCurveToAosCx => AosCx.indent

def Entries : Direction → Network → SiteProfile → List Entry → Prop
  | iosToProCurve => ProCurve.Entries
  | iosToAosCx | proCurveToAosCx => AosCx.Entries

theorem exists_written (d : Direction) (text : Text) {profile : SiteProfile}
    (hstem : OneLine profile.portStem) (hsite : OneLine profile.nativeVlan) :
    ∃ entries, d.Entries (d.read text) profile entries ∧
      Written d.indent (d.read text) entries (d.translate text profile).output := by
  cases d with
  | iosToAosCx =>
    exact ⟨_, AosCx.entries_sortBy ..,
      AosCx.written (Ios.keyed_read text) (Ios.fitting text) hstem hsite⟩
  | proCurveToAosCx =>
    exact ⟨_, AosCx.entries_sortBy ..,
      AosCx.written (ProCurve.keyed_read text) (ProCurve.fitting text) hstem hsite⟩
  | iosToProCurve =>
    exact ⟨_, ProCurve.entries_canonical (Ios.quoteFree text).device profile,
      ProCurve.written (Ios.legible text) profile⟩

end Direction

/-- The records of a network stand in the order of the first headers that name them. -/
structure FirstSeen (network : Network) (as : List Ios.Action) : Prop where
  vlans : network.vlans.values.map Vlan.id =
    (as.filterMap Ios.Action.openedVlan?).foldl appendNew []
  ports : network.ports.values.map Port.id =
    (as.filterMap Ios.Action.openedPort?).foldl appendNew []

/-- How the lines of an output are laid out: they are those of the entries of the network, with the
head of each at the margin, and the summary counts them. -/
structure LaidOut (d : Direction) (text : Text) (profile : SiteProfile) (lines : List Text) :
    Prop where
  entries : ∃ entries, d.Entries (d.read text) profile entries ∧
    lines = entries.flatMap (Entry.lines d.indent) ∧
    lines.filter atMargin = entries.map Entry.head
  vlans : (d.translate text profile).summary.vlans = lines.countP isVlanHeader
  ports : (d.translate text profile).summary.ports = lines.countP isPortHeader
  outputLines : (d.translate text profile).summary.outputLines = lines.length
  firstSeen : d.target = .proCurve → FirstSeen (d.read text) (Ios.actions text)
  quotes : d.target = .proCurve →
    ∀ line ∈ lines, ProCurve.isQuoting line = true → line.count '"' = 2

/-- No text, whatever it holds, makes a writer lose, repeat or break a line, as long as the texts
of the profile that are written fit on a line. -/
theorem output_laid_out (d : Direction) (text : Text) {profile : SiteProfile}
    (hstem : OneLine profile.portStem) (hsite : OneLine profile.nativeVlan) :
    LaidOut d text profile ((d.translate text profile).output.splitOn '\n') := by
  obtain ⟨entries, hentries, written⟩ := d.exists_written text hstem hsite
  have hindent : 0 < d.indent := by cases d <;> decide
  have hhead : ∀ entry ∈ entries, IsHead entry.head := fun entry hentry =>
    written.headed.head entry.head (List.mem_map_of_mem hentry)
  have hlines : (d.translate text profile).output.splitOn '\n' =
      entries.flatMap (Entry.lines d.indent) := by
    rw [written.output_eq, Entry.splitOn_render written.ne_nil written.oneLine]
  rw [hlines]
  constructor
  case entries =>
    exact ⟨entries, hentries, rfl, Entry.filter_lines hindent fun e he => (hhead e he).1⟩
  case vlans =>
    rw [Entry.countP_lines hindent fun _ => atMargin_of_isVlanHeader, written.headed.vlans]
    rfl
  case ports =>
    rw [Entry.countP_lines hindent fun _ => atMargin_of_isPortHeader, written.headed.ports]
    rfl
  case outputLines =>
    rw [← Entry.lineCount_render hindent written.oneLine fun e he => (hhead e he).2,
      ← written.output_eq]
    rfl
  case firstSeen =>
    intro htarget
    cases d with
    | iosToProCurve => exact ⟨Ios.vlanIds_read text, Ios.portIds_read text⟩
    | _ => cases htarget
  case quotes =>
    intro htarget line hline hquoting
    cases d with
    | iosToProCurve =>
      exact ProCurve.count_quote_of_quoting (Ios.quoteFree text) hentries hline hquoting
    | _ => cases htarget

/-- A port whose description could be taken for statements of its own. -/
def quotedDesk : Text :=
  "hostname Core\nvlan 20\ninterface Gi0/2\n description \"x\" vlan 3\n shutdown\n!".toList

theorem quotedDesk_laid_out :
    OneLine SiteProfile.default.portStem ∧ OneLine SiteProfile.default.nativeVlan ∧
      LaidOut .iosToProCurve quotedDesk .default
        ((Direction.iosToProCurve.translate quotedDesk .default).output.splitOn '\n') ∧
      ((Direction.iosToProCurve.translate quotedDesk .default).output.splitOn '\n').drop 5 =
        ["hostname Core".toList, "vlan 20".toList, "   no ip address".toList, "   exit".toList,
         "interface 2".toList, "   name \"x vlan 3\"".toList, "   disable".toList,
         "   no power-over-ethernet".toList, "   exit".toList] :=
  have hstem : OneLine SiteProfile.default.portStem := by decide
  have hsite : OneLine SiteProfile.default.nativeVlan := by decide
  ⟨hstem, hsite, output_laid_out .iosToProCurve quotedDesk hstem hsite, by decide +kernel⟩

end SwitchDialects
