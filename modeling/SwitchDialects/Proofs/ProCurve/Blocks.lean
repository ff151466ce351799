import SwitchDialects.Proofs.Outline
import SwitchDialects.Proofs.ProCurve.Written

/-!
# Blocks of a written ProCurve configuration

Every line of a written configuration is one line of its text, and no other line looks like the
header of a port. So the block of a port in the text holds what its kept statements are written as.
-/

namespace SwitchDialects.ProCurve

open Text

def keptTexts (kept : KeptStatement) : List Text := (keptLines kept).map Line.text

def portMembers (port : Port) : List Text := port.kept.flatMap keptTexts ++ ["exit".toList]

def portHeader (id : Text) : Text := "interface ".toList ++ id

theorem keptLines_eq (kept : KeptStatement) : keptLines kept = (keptTexts kept).map .member := by
  rcases kept with text | (_ | _) | _ <;> rfl

theorem portBlock_eq (port : Port) :
    portBlock port = Outline.block (fun p => portHeader p.id) portMembers port := by
  have hkept : port.kept.flatMap keptLines = (port.kept.flatMap keptTexts).map .member := by
    rw [List.map_flatMap]
    exact List.flatMap_congr fun kept _ => keptLines_eq kept
  rw [portBlock, hkept, Outline.block, portMembers, List.map_append]
  rfl

def front (network : Network) (profile : SiteProfile) : List Line :=
  warning.map .flush ++ (network.device.filterMap deviceLine?).map .flush ++
    network.vlans.values.flatMap (vlanBlock profile)

theorem outline_eq_blocks (network : Network) (profile : SiteProfile) :
    outline network profile = front network profile ++
      network.ports.values.flatMap (Outline.block (fun p => portHeader p.id) portMembers) := by
  rw [outline, front]
  exact congrArg _ (List.flatMap_congr fun port _ => portBlock_eq port)

theorem oneLine_outline {network : Network} (h : LegibleNetwork network) (profile : SiteProfile) :
    ∀ line ∈ outline network profile, OneLine line.text := by
  intro line hline
  rw [outline, List.append_assoc, List.append_assoc, List.mem_append, ← List.append_assoc] at hline
  rcases hline with hline | hline
  · obtain ⟨text, htext, rfl⟩ := List.mem_map.mp hline
    exact (by decide : ∀ t ∈ warning, OneLine t) text htext
  · exact (significant_body h profile line hline).oneLine

theorem notMem_portList_flush (keyword : String) (ports : OrderedSet) (text : Text) :
    .flush text ∉ portList keyword ports := by
  rw [portList]
  split <;> simp

/-- The only line of the block of a VLAN at the margin is its header. -/
theorem flush_mem_vlanBlock {profile : SiteProfile} {vlan : Vlan} {text : Text}
    (h : .flush text ∈ vlanBlock profile vlan) : text = "vlan ".toList ++ vlan.id := by
  simp only [vlanBlock, List.mem_append, List.mem_singleton, Option.mem_toList,
    Option.map_eq_some_iff] at h
  rcases h with ((((h | ⟨_, _, h⟩) | h) | h) | h) | h
  · exact Line.flush.inj h
  · cases h
  · exact absurd h (notMem_portList_flush _ _ text)
  · exact absurd h (notMem_portList_flush _ _ text)
  · split at h <;> simp at h
  · simp at h

theorem head?_portHeader (id : Text) : (portHeader id).head? ≠ some ' ' := by
  intro h
  cases h

theorem head?_of_deviceLine? {statement : DeviceStatement} {t : Text}
    (h : deviceLine? statement = some t) : t.head? ≠ some ' ' := by
  cases statement with
  | spanningTree mode =>
    rw [deviceLine?] at h
    split at h <;> cases h
    decide
  | _ =>
    cases h
    exact fun hspace => by cases hspace

theorem portHeader_notMem_front (network : Network) (profile : SiteProfile) (id : Text) :
    .flush (portHeader id) ∉ front network profile := by
  intro hmem
  simp only [front, List.mem_append, List.mem_map, List.mem_filterMap, List.mem_flatMap] at hmem
  rcases hmem with (⟨text, htext, hline⟩ | ⟨text, ⟨statement, _, hs⟩, hline⟩) | ⟨vlan, _, hmem⟩
  · have hfirst := (by decide : ∀ t ∈ warning, t.head? = some ';') text htext
    rw [Line.flush.inj hline] at hfirst
    cases hfirst
  · obtain rfl := Line.flush.inj hline
    cases statement with
    | spanningTree mode =>
      rw [deviceLine?] at hs
      split at hs <;> cases hs
    | _ => cases hs
  · cases flush_mem_vlanBlock hmem

/-- A line at the margin does not start with a space. -/
theorem head?_of_flush {network : Network} {profile : SiteProfile} {t : Text}
    (h : .flush t ∈ outline network profile) : t.head? ≠ some ' ' := by
  rw [outline_eq_blocks, List.mem_append, Outline.flush_mem_blocks] at h
  rcases h with h | ⟨port, _, rfl⟩
  · simp only [front, List.mem_append, List.mem_map, List.mem_filterMap, List.mem_flatMap] at h
    rcases h with (⟨text, htext, hline⟩ | ⟨text, ⟨statement, _, hs⟩, hline⟩) | ⟨vlan, _, h⟩
    · have hfirst := (by decide : ∀ t ∈ warning, t.head? ≠ some ' ') text htext
      exact Line.flush.inj hline ▸ hfirst
    · obtain rfl := Line.flush.inj hline
      exact head?_of_deviceLine? hs
    · obtain rfl := flush_mem_vlanBlock h
      exact fun hspace => by cases hspace
  · exact head?_portHeader port.id

/-- The block of a port in the text is what was written for this port. -/
theorem blockOf_write {network : Network} (h : LegibleNetwork network) (profile : SiteProfile)
    (distinct : (network.ports.values.map Port.id).Nodup) {port : Port}
    (hport : port ∈ network.ports.values) :
    Outline.blockOf indent (portHeader port.id) (write network profile) = portMembers port := by
  have hmembers : Outline.membersUnder (portHeader port.id) (outline network profile) =
      portMembers port := by
    rw [outline_eq_blocks]
    refine Outline.membersUnder_blocks (fun p => portHeader p.id) portMembers hport
      (portHeader_notMem_front network profile port.id) fun p hp hheader => ?_
    exact List.inj_on_of_nodup_map distinct hp hport (List.append_cancel_left hheader)
  rw [write, Outline.blockOf_render (by decide) (by simp [outline, warning])
    (oneLine_outline h profile) (fun _ => head?_of_flush) (head?_portHeader port.id), hmembers]

end SwitchDialects.ProCurve
