import SwitchDialects.Writer
import SwitchDialects.Proofs.Text.Pieces
import SwitchDialects.Proofs.Text.Trimming
import SwitchDialects.Text.Number

/-!
# Lines of a text

The significant lines of several texts joined by line feeds are those of the texts in turn, and a
line without a line feed is one significant line or none. So the lines that a reader sees in a
written outline are the lines of the outline, one by one, with the indentation taken off.
-/

namespace SwitchDialects.Text

/-- A line that a reader may see: not empty, no blank at its ends, no line feed inside. -/
structure Significant (line : Text) : Prop where
  ne_nil : line ≠ []
  trimmed : Trimmed line
  oneLine : OneLine line

theorem significant_of_mem {t line : Text} (h : line ∈ significantLines t) : Significant line := by
  obtain ⟨hmap, _⟩ := List.mem_filter.mp h
  obtain ⟨part, hpart, rfl⟩ := List.mem_map.mp hmap
  exact ⟨ne_nil_of_mem_significantLines h, trimmed_trim part,
    .of_subset (fun _ => mem_of_mem_stripEnds) (notMem_of_mem_splitOn hpart)⟩

theorem significantLines_of_oneLine {t : Text} (h : OneLine t) :
    significantLines t = if trim t = [] then [] else [trim t] := by
  rw [significantLines, List.splitOn_eq_singleton h]
  by_cases ht : trim t = [] <;> simp [ht]

/-- A visible text with blanks in front of it is one significant line. -/
theorem significantLines_indented (front : Text) {line : Text} (hf : ∀ c ∈ front, c = ' ')
    (h : Significant line) : significantLines (front ++ line) = [line] := by
  have hblank : ∀ c ∈ front, isBlank c = true := by
    intro c hc
    rw [hf c hc]
    decide
  have hone : OneLine (front ++ line) := by
    refine OneLine.append (fun hn => ?_) h.oneLine
    exact absurd (hf _ hn) (by decide)
  have htrim : trim (front ++ line) = line := by
    rw [trim_append_of_blank front line hblank, trim_eq_self h.trimmed]
  rw [significantLines_of_oneLine hone, htrim, if_neg h.ne_nil]

theorem significantLines_joinWith (parts : List Text) :
    significantLines (joinWith ['\n'] parts) = parts.flatMap significantLines := by
  induction parts with
  | nil => rfl
  | cons part parts ih =>
    cases parts with
    | nil => simp [joinWith]
    | cons next parts =>
      rw [joinWith_cons_cons, List.append_assoc, List.singleton_append, significantLines_append, ih]
      rfl

/-- A word has no blank, is not empty and is a part of its text. -/
theorem mem_words {t word : Text} (h : word ∈ words t) :
    word ≠ [] ∧ ∀ c ∈ word, isBlank c = false ∧ c ∈ t := by
  obtain ⟨hsplit, hne⟩ := List.mem_filter.mp h
  refine ⟨by simpa using hne, fun c hc => ?_⟩
  clear h hne
  induction t generalizing word with
  | nil =>
    have : word = [] := by simpa using hsplit
    simp [this] at hc
  | cons d rest ih =>
    rw [List.splitOnP_cons_eq_if_modifyHead] at hsplit
    obtain ⟨first, others, hfirst⟩ := List.exists_cons_of_ne_nil (List.splitOnP_ne_nil isBlank rest)
    rw [hfirst] at hsplit ih
    split at hsplit
    · rcases List.mem_cons.mp hsplit with rfl | hsplit
      · simp at hc
      · exact (ih hsplit hc).imp_right (List.mem_cons_of_mem d)
    · rename_i hd
      rcases List.mem_cons.mp hsplit with rfl | hsplit
      · rcases List.mem_cons.mp hc with rfl | hc
        · exact ⟨by simpa using hd, List.mem_cons_self⟩
        · exact (ih (by simp) hc).imp_right (List.mem_cons_of_mem d)
      · exact (ih (by simp [hsplit]) hc).imp_right (List.mem_cons_of_mem d)

end SwitchDialects.Text

namespace SwitchDialects

open Text

theorem Text.significant_of_visible {t : Text} (hne : t ≠ [])
    (h : ∀ c ∈ t, isBlank c = false) : Significant t where
  ne_nil := hne
  trimmed := ⟨fun c hc => h c (List.mem_of_head? hc), fun c hc => h c (List.mem_of_getLast? hc)⟩
  oneLine hn := absurd (h _ hn) (by decide)

/-- A fixed text is checked at its ends. -/
theorem Text.significant_of_ends {t : Text} (hfirst : t.head?.any (!isBlank ·) = true)
    (hlast : t.getLast?.any (!isBlank ·) = true) (hone : OneLine t) : Significant t where
  ne_nil hnil := by simp [hnil] at hfirst
  trimmed := ⟨fun c hc => by simpa [hc] using hfirst, fun c hc => by simpa [hc] using hlast⟩
  oneLine := hone

/-- A keyword and an argument make a line. -/
theorem Text.Significant.append {front t : Text} (h : Significant t)
    (hfirst : front.head?.any (!isBlank ·) = true) (hone : OneLine front) :
    Significant (front ++ t) := by
  have hne : front ≠ [] := by
    rintro rfl
    cases hfirst
  have hvisible : ∀ c, front.head? = some c → isBlank c = false := by
    intro c hc
    simpa [hc] using hfirst
  exact ⟨by simp [hne], trimmed_append hvisible hne h.trimmed h.ne_nil, hone.append h.oneLine⟩

theorem Text.significant_quoted {t : Text} (h : OneLine t) : Significant (quoted t) :=
  ⟨by simp [quoted], trimmed_quoted t, h.quoted⟩

theorem isBlank_of_isDigit {c : Char} (h : c.isDigit = true) : isBlank c = false := by
  simp only [Char.isDigit, Bool.and_eq_true, decide_eq_true_eq, UInt32.le_iff_toNat_le] at h
  have h48 : 48 ≤ c.toNat := h.1
  have h57 : c.toNat ≤ 57 := h.2
  simp only [isBlank, Bool.or_eq_false_iff, Bool.and_eq_false_iff, decide_eq_false_iff_not,
    beq_eq_false_iff_ne]
  omega

theorem Decimal.isDigit_of_isNumber {t : Text} (h : Decimal.isNumber t = true) :
    t ≠ [] ∧ ∀ c ∈ t, c.isDigit = true := by
  simpa [Decimal.isNumber] using h

theorem Decimal.notMem_of_isNumber {t : Text} (h : Decimal.isNumber t = true) {c : Char}
    (hc : c.isDigit = false) : c ∉ t := by
  intro hmem
  rw [(Decimal.isDigit_of_isNumber h).2 c hmem] at hc
  cases hc

theorem Decimal.significant_of_isNumber {t : Text} (h : Decimal.isNumber t = true) :
    Significant t := by
  obtain ⟨hne, hdigit⟩ := Decimal.isDigit_of_isNumber h
  exact significant_of_visible hne fun c hc => isBlank_of_isDigit (hdigit c hc)

/-- The statement that a line of an outline holds, its indentation aside. -/
def Line.text : Line → Text
  | .flush text | .member text => text

theorem Line.significantLines_render {indent : Nat} {line : Line} (h : Significant line.text) :
    significantLines (line.render indent) = [line.text] := by
  cases line with
  | flush text => exact significantLines_indented [] (by simp) h
  | member text => exact significantLines_indented _ (by simp) h

/-- What a reader sees of a written outline. -/
theorem Outline.significantLines_render (indent : Nat) (lines : List Line) :
    significantLines (Outline.render indent lines) =
      lines.flatMap fun line => significantLines (line.render indent) := by
  rw [Outline.render, significantLines_joinWith, List.flatMap_map]

/-- An outline of significant statements is read statement by statement. -/
theorem Outline.significantLines_render_of_significant {indent : Nat} {lines : List Line}
    (h : ∀ line ∈ lines, Significant line.text) :
    significantLines (Outline.render indent lines) = lines.map Line.text := by
  rw [Outline.significantLines_render]
  induction lines with
  | nil => rfl
  | cons line lines ih =>
    rw [List.flatMap_cons, Line.significantLines_render (h line (by simp)),
      ih fun l hl => h l (by simp [hl])]
    rfl

theorem Line.oneLine_render {indent : Nat} {line : Line} (h : OneLine line.text) :
    OneLine (line.render indent) := by
  cases line with
  | flush text => exact h
  | member text =>
    refine OneLine.append (fun hn => ?_) h
    exact absurd (List.eq_of_mem_replicate hn) (by decide)

/-- The lines of a written outline are its lines, each with its indentation. -/
theorem Outline.splitOn_render {indent : Nat} {lines : List Line} (hne : lines ≠ [])
    (h : ∀ line ∈ lines, OneLine line.text) :
    (Outline.render indent lines).splitOn '\n' = lines.map (Line.render indent) := by
  refine List.splitOn_intercalate '\n' (fun t ht => ?_) (by simpa using hne)
  obtain ⟨line, hline, rfl⟩ := List.mem_map.mp ht
  exact Line.oneLine_render (h line hline)

end SwitchDialects
