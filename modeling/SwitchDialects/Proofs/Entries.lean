import SwitchDialects.Network
import SwitchDialects.Proofs.Outline

/-!
# Entries of a written text

A written text is a list of entries: a line at the margin, and the members of its block moved in
under it. Where every text fits on a line, cutting the text at its line feeds gives the entries back
line by line, the lines at the margin are the heads of the entries, and what is counted among the
lines is counted among the heads.
-/

namespace SwitchDialects

open Text

/-- A line at the margin and the members of the block that it opens. -/
structure Entry where
  head : Text
  members : List Text
deriving DecidableEq, Repr

def atMargin (line : Text) : Bool := line.head? != some ' '

namespace Entry

def single (head : Text) : Entry := ⟨head, []⟩

def lines (indent : Nat) (entry : Entry) : List Text :=
  entry.head :: entry.members.map (List.replicate indent ' ' ++ ·)

def outline (entries : List Entry) : List Line :=
  entries.flatMap (Outline.block head members)

theorem outline_append (entries more : List Entry) :
    outline (entries ++ more) = outline entries ++ outline more :=
  List.flatMap_append

theorem outline_singles (heads : List Text) : outline (heads.map single) = heads.map .flush := by
  rw [outline, List.flatMap_map]
  exact List.flatMap_pure_eq_map Line.flush heads

variable {indent : Nat} {entries : List Entry}

theorem map_render_outline (indent : Nat) (entries : List Entry) :
    (outline entries).map (Line.render indent) = entries.flatMap (lines indent) := by
  rw [outline, List.map_flatMap]
  refine List.flatMap_congr fun entry _ => ?_
  simp [Outline.block, lines, Line.render, Function.comp_def]

/-- Entries without members are lines. -/
theorem flatMap_lines_singles (indent : Nat) (heads : List Text) :
    (heads.map single).flatMap (lines indent) = heads := by
  rw [List.flatMap_map]
  exact List.flatMap_singleton' heads

/-- The lines of a text made of entries are theirs. -/
theorem splitOn_render (hne : entries ≠ [])
    (oneLine : ∀ line ∈ outline entries, OneLine line.text) :
    (Outline.render indent (outline entries)).splitOn '\n' = entries.flatMap (lines indent) := by
  have hlines : outline entries ≠ [] := by
    obtain ⟨entry, rest, rfl⟩ := List.exists_cons_of_ne_nil hne
    simp [outline, Outline.block]
  rw [Outline.splitOn_render hlines oneLine, map_render_outline]

theorem atMargin_member (hindent : 0 < indent) (t : Text) :
    atMargin (List.replicate indent ' ' ++ t) = false := by
  obtain ⟨n, rfl⟩ := Nat.exists_eq_succ_of_ne_zero hindent.ne'
  rfl

/-- Lines that are never moved in are found among the heads. -/
theorem filter_lines_of_imp (hindent : 0 < indent) {p : Text → Bool}
    (hp : ∀ line, p line = true → atMargin line = true) (entries : List Entry) :
    (entries.flatMap (lines indent)).filter p = (entries.map head).filter p := by
  induction entries with
  | nil => rfl
  | cons entry entries ih =>
    have hmembers : (entry.members.map (List.replicate indent ' ' ++ ·)).filter p = [] := by
      rw [List.filter_eq_nil_iff]
      intro line hline hfound
      obtain ⟨t, _, rfl⟩ := List.mem_map.mp hline
      have hmargin := hp _ hfound
      rw [atMargin_member hindent] at hmargin
      cases hmargin
    rw [List.flatMap_cons, List.filter_append, ih, lines, List.filter_cons, hmembers,
      List.map_cons, List.filter_cons]
    split <;> rfl

/-- Only the heads are at the margin. -/
theorem filter_lines (hindent : 0 < indent)
    (margin : ∀ entry ∈ entries, atMargin entry.head = true) :
    (entries.flatMap (lines indent)).filter atMargin = entries.map head := by
  rw [filter_lines_of_imp hindent fun _ h => h]
  exact List.filter_eq_self.mpr (List.forall_mem_map.mpr margin)

/-- What no line has that is moved in is counted among the heads. -/
theorem countP_lines (hindent : 0 < indent) {p : Text → Bool}
    (hp : ∀ line, p line = true → atMargin line = true) (entries : List Entry) :
    (entries.flatMap (lines indent)).countP p = (entries.map head).countP p := by
  rw [List.countP_eq_length_filter, filter_lines_of_imp hindent hp, List.countP_eq_length_filter]

end Entry

theorem Text.lineCount_append (a b : Text) :
    lineCount (a ++ '\n' :: b) = a.count '\n' + 1 + lineCount b := by
  have hlast : (a ++ '\n' :: b).getLast?.all (· == '\n') = b.getLast?.all (· == '\n') := by
    cases b with
    | nil => simp
    | cons c b => rw [List.getLast?_append_of_ne_nil _ (by simp), List.getLast?_cons_cons]
  rw [lineCount, lineCount, hlast, List.count_append, List.count_cons_self]
  omega

theorem Text.lineCount_of_oneLine {t : Text} (h : OneLine t) (hne : t ≠ []) : lineCount t = 1 := by
  obtain ⟨last, hlast⟩ := Option.isSome_iff_exists.mp (List.getLast?_isSome.mpr hne)
  have hother : last ≠ '\n' := fun e => h (e ▸ List.mem_of_getLast? hlast)
  rw [lineCount, List.count_eq_zero_of_not_mem h, hlast]
  simp [hother]

/-- A text has as many lines as were joined, none of them empty. -/
theorem Text.lineCount_joinWith {parts : List Text} (hparts : ∀ t ∈ parts, OneLine t ∧ t ≠ []) :
    lineCount (joinWith ['\n'] parts) = parts.length := by
  induction parts with
  | nil => rfl
  | cons part parts ih =>
    obtain ⟨hone, hne⟩ := hparts part (by simp)
    cases parts with
    | nil => simpa [joinWith] using lineCount_of_oneLine hone hne
    | cons next parts =>
      rw [joinWith_cons_cons, List.append_assoc, List.singleton_append, lineCount_append,
        ih fun t ht => hparts t (by simp [ht]), List.count_eq_zero_of_not_mem hone]
      simp only [List.length_cons]
      omega

theorem Entry.lineCount_render {indent : Nat} (hindent : 0 < indent) {entries : List Entry}
    (oneLine : ∀ line ∈ outline entries, OneLine line.text)
    (heads : ∀ entry ∈ entries, entry.head ≠ []) :
    lineCount (Outline.render indent (outline entries)) =
      (entries.flatMap (lines indent)).length := by
  have hparts : ∀ t ∈ (outline entries).map (Line.render indent), OneLine t ∧ t ≠ [] := by
    intro t ht
    obtain ⟨line, hline, rfl⟩ := List.mem_map.mp ht
    refine ⟨Line.oneLine_render (oneLine line hline), ?_⟩
    cases line with
    | flush text =>
      obtain ⟨entry, hentry, rfl⟩ := Outline.flush_mem_blocks.mp hline
      exact heads entry hentry
    | member text =>
      intro hnil
      have hlength := congrArg List.length hnil
      simp only [Line.render, List.length_append, List.length_replicate, List.length_nil] at hlength
      omega
  rw [Outline.render, lineCount_joinWith hparts, map_render_outline]

def vlanHeader (id : Text) : Text := "vlan ".toList ++ id

def isVlanHeader (line : Text) : Bool := "vlan ".toList.isPrefixOf line

def isPortHeader (line : Text) : Bool := "interface ".toList.isPrefixOf line

theorem atMargin_of_isVlanHeader {line : Text} (h : isVlanHeader line = true) :
    atMargin line = true := by
  obtain ⟨rest, rfl⟩ := List.isPrefixOf_iff_prefix.mp h
  rfl

theorem atMargin_of_isPortHeader {line : Text} (h : isPortHeader line = true) :
    atMargin line = true := by
  obtain ⟨rest, rfl⟩ := List.isPrefixOf_iff_prefix.mp h
  rfl

/-- A line at the margin that holds something. -/
def IsHead (line : Text) : Prop := atMargin line = true ∧ line ≠ []

/-- A line at the margin that opens the block of no VLAN and no port. -/
structure OpensNone (line : Text) : Prop where
  head : IsHead line
  vlan : isVlanHeader line = false
  port : isPortHeader line = false

/-- What stands at the margin: a header for each VLAN and for each port, and other lines. -/
structure Headed (network : Network) (heads : List Text) : Prop where
  head : ∀ line ∈ heads, IsHead line
  vlans : heads.countP isVlanHeader = network.vlans.size
  ports : heads.countP isPortHeader = network.ports.size

section

variable {front middle : List Text} {vlans : List Vlan} {ports : List Port}
  {portHeader : Text → Text}

theorem countP_map_of {ι : Type} {p : Text → Bool} {head : ι → Text} {counted : Bool}
    (h : ∀ x, p (head x) = counted) (items : List ι) :
    (items.map head).countP p = if counted then items.length else 0 := by
  rw [List.countP_map]
  cases counted with
  | false => exact List.countP_eq_zero.mpr fun x _ => by simp [h x]
  | true => exact List.countP_eq_length.mpr fun x _ => h x

/-- Of the lines at the margin all headers of a kind are counted or none. -/
theorem countP_blocks {p : Text → Bool} {countsVlans countsPorts : Bool}
    (hfront : ∀ line ∈ front, p line = false) (hvlan : ∀ id, p (vlanHeader id) = countsVlans)
    (hmiddle : ∀ line ∈ middle, p line = false) (hport : ∀ id, p (portHeader id) = countsPorts) :
    (front ++ vlans.map (vlanHeader ·.id) ++ middle ++ ports.map (portHeader ·.id)).countP p =
      (if countsVlans then vlans.length else 0) + if countsPorts then ports.length else 0 := by
  have hfront0 : front.countP p = 0 := List.countP_eq_zero.mpr fun l h => by simp [hfront l h]
  have hmiddle0 : middle.countP p = 0 := List.countP_eq_zero.mpr fun l h => by simp [hmiddle l h]
  simp only [List.countP_append, hfront0, hmiddle0, Nat.zero_add, Nat.add_zero,
    countP_map_of fun vlan : Vlan => hvlan vlan.id, countP_map_of fun port : Port => hport port.id]

theorem headed_of_blocks {network : Network} (hfront : ∀ line ∈ front, OpensNone line)
    (hvlans : vlans.Perm network.vlans.values) (hmiddle : ∀ line ∈ middle, OpensNone line)
    (hports : ports.Perm network.ports.values)
    (hheader : ∀ id, ∃ rest, portHeader id = "interface ".toList ++ rest) :
    Headed network (front ++ vlans.map (vlanHeader ·.id) ++ middle ++
      ports.map (portHeader ·.id)) := by
  have hport (id : Text) : IsHead (portHeader id) ∧ isVlanHeader (portHeader id) = false ∧
      isPortHeader (portHeader id) = true := by
    obtain ⟨rest, hrest⟩ := hheader id
    rw [hrest]
    exact ⟨⟨rfl, by simp⟩, rfl, rfl⟩
  refine ⟨?head, ?vlans, ?ports⟩
  case head =>
    intro line hline
    simp only [List.mem_append, List.mem_map] at hline
    rcases hline with ((hline | ⟨vlan, _, rfl⟩) | hline) | ⟨port, _, rfl⟩
    · exact (hfront line hline).head
    · exact ⟨rfl, by simp [vlanHeader]⟩
    · exact (hmiddle line hline).head
    · exact (hport port.id).1
  case vlans =>
    rw [countP_blocks (fun line h => (hfront line h).vlan) (fun _ => rfl)
      (fun line h => (hmiddle line h).vlan) (fun id => (hport id).2.1)]
    simp [hvlans.length_eq, OrderedMap.values, OrderedMap.size]
  case ports =>
    rw [countP_blocks (fun line h => (hfront line h).port) (fun _ => rfl)
      (fun line h => (hmiddle line h).port) (fun id => (hport id).2.2)]
    simp [hports.length_eq, OrderedMap.values, OrderedMap.size]

end

/-- What a text is written from: entries whose lines are the lines of the text. -/
structure Written (indent : Nat) (network : Network) (entries : List Entry) (output : Text) :
    Prop where
  output_eq : output = Outline.render indent (Entry.outline entries)
  ne_nil : entries ≠ []
  oneLine : ∀ line ∈ Entry.outline entries, OneLine line.text
  headed : Headed network (entries.map Entry.head)

end SwitchDialects
