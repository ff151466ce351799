import Mathlib.Data.List.Infix
import Mathlib.Logic.Relation
import SwitchDialects.Proofs.ProCurve.Keywords
import SwitchDialects.Proofs.ProCurve.Sections
import SwitchDialects.Proofs.Text.LetterCase

/-!
# Keywords in another letter case

A statement of ProCurve says the same in whatever letter case its keyword is written, so a text is
read the same when its keywords are written in another. One word counts in lower case only: the
`exit` that ends the block of a port. In another case it is passed over, and the block stays open.
-/

namespace SwitchDialects

open Text

namespace ProCurve

/-- The words that introduce a statement. -/
def keywords : List Text :=
  ["vlan", "interface", "name", "description", "tagged", "untagged", "ip address", "voice",
    "hostname", "no power-over-ethernet", "power-over-ethernet", "disable", "enable",
    "speed-duplex", "voice vlan"].map String.toList

theorem atBoundary_lower (t : Text) : atBoundary (lower t) = atBoundary t := by
  cases t with
  | nil => rfl
  | cons c t => exact congrArg (! ·) (isWordCharacter_toLower c)

theorem startsWithWord_lower (keyword line : Text) :
    startsWithWord keyword (lower line) = startsWithWord keyword line := by
  rw [startsWithWord, startsWithWord, afterKeyword?_lower]
  cases afterKeyword? keyword line with
  | none => rfl
  | some rest => exact atBoundary_lower rest

theorem vlanHeader?_lower (line : Text) :
    vlanHeader? (lower line) = (vlanHeader? line).map lower :=
  foldedRun?_lower isDecimalDigit_toLower _ line

theorem portHeader?_lower (line : Text) :
    portHeader? (lower line) = (portHeader? line).map lower := by
  rw [portHeader?, portHeader?, afterBlank?_lower]
  cases afterBlank? "interface".toList line with
  | none => rfl
  | some rest =>
    simp only [Option.map_some, Option.bind_some, takeWhile_lower isDecimalDigit_toLower,
      dropWhile_lower isDecimalDigit_toLower, atBoundary_lower, isEmpty_lower]
    split <;> rfl

section

variable {line other : Text} (same : lower line = lower other)

include same

theorem startsWithWord_eq (keyword : Text) :
    startsWithWord keyword line = startsWithWord keyword other := by
  rw [← startsWithWord_lower, same, startsWithWord_lower]

theorem sameIgnoringCase_eq (t : Text) : sameIgnoringCase line t = sameIgnoringCase other t := by
  rw [sameIgnoringCase, same, sameIgnoringCase]

end

/-- A keyword is found alike behind words that fold alike, unless it ends inside them. -/
theorem afterKeyword?_congr {keyword word other : Text}
    (h : word.map foldLetter = other.map foldLetter)
    (hends : keyword <+: word.map foldLetter → keyword = word.map foldLetter) (rest : Text) :
    afterKeyword? keyword (word ++ rest) = afterKeyword? keyword (other ++ rest) := by
  induction keyword generalizing word other with
  | nil =>
    obtain rfl : word = [] := List.map_eq_nil_iff.mp (hends List.nil_prefix).symm
    obtain rfl : other = [] := List.map_eq_nil_iff.mp h.symm
    rfl
  | cons k keyword ih =>
    cases word with
    | nil =>
      obtain rfl : other = [] := List.map_eq_nil_iff.mp h.symm
      rfl
    | cons c word =>
      cases other with
      | nil => cases h
      | cons d other =>
        obtain ⟨hfirst, hothers⟩ := List.cons.inj h
        rw [List.cons_append, List.cons_append, afterKeyword?, afterKeyword?, hfirst]
        split
        · rename_i hk
          refine ih hothers fun hprefix => ?_
          have hcons : k :: keyword <+: (c :: word).map foldLetter :=
            List.cons_prefix_cons.mpr ⟨(hfirst.trans hk).symm, hprefix⟩
          exact (List.cons.inj (hends hcons)).2
        · rfl

section

variable {word other : Text} (known : lower word ∈ keywords) (same : lower other = lower word)

include known in
theorem map_foldLetter_of_known : word.map foldLetter = lower word := by
  have hkeywords : ∀ k ∈ keywords, k.map foldLetter = k := by decide
  rw [map_eq_of_lower foldLetter_toLower (lower_lower word).symm]
  exact hkeywords _ known

include known in
theorem significant_of_known : Significant (lower word) := by
  have hkeywords : ∀ k ∈ keywords, k.head?.any (!isBlank ·) = true ∧
      k.getLast?.any (!isBlank ·) = true ∧ OneLine k := by decide
  obtain ⟨hfirst, hlast, hone⟩ := hkeywords _ known
  exact significant_of_ends hfirst hlast hone

include known in
/-- A line that starts with a keyword starts with no text that goes apart from all keywords. -/
theorem not_prefix_of_known {text : Text}
    (h : ∀ k ∈ keywords, ¬ k <+: lower text ∧ ¬ lower text <+: k) (rest : Text) :
    ¬ text <+: word ++ rest := by
  intro hprefix
  obtain ⟨hword, htext⟩ := h _ known
  rcases List.prefix_or_prefix_of_prefix hprefix (List.prefix_append word rest) with hin | hin
  · exact htext (hin.map Char.toLower)
  · exact hword (hin.map Char.toLower)

include known same in
theorem afterKeyword?_of_known {keyword : Text}
    (h : ∀ k ∈ keywords, keyword <+: k → keyword = k) (rest : Text) :
    afterKeyword? keyword (other ++ rest) = afterKeyword? keyword (word ++ rest) := by
  have hword := map_foldLetter_of_known known
  have hother := map_foldLetter_of_known (same ▸ known)
  refine (afterKeyword?_congr ?_ ?_ rest).symm
  · rw [hword, hother, same]
  · rw [hword]
    exact h _ known

include known same in
theorem foldedArgument?_of_known {keyword : Text}
    (h : ∀ k ∈ keywords, keyword <+: k → keyword = k) (rest : Text) :
    foldedArgument? keyword (other ++ rest) = foldedArgument? keyword (word ++ rest) := by
  rw [foldedArgument?, afterBlank?, afterKeyword?_of_known known same h, foldedArgument?,
    afterBlank?]

include known same in
theorem foldedRun?_of_known {keyword : Text} {inClass : Char → Bool}
    (h : ∀ k ∈ keywords, keyword <+: k → keyword = k) (rest : Text) :
    foldedRun? keyword inClass (other ++ rest) = foldedRun? keyword inClass (word ++ rest) := by
  rw [foldedRun?, afterBlank?, afterKeyword?_of_known known same h, foldedRun?, afterBlank?]

include known same in
/-- A line is read the same whatever letter case the keyword at its start is written in. -/
theorem read_of_known (block : Block) (rest : Text) :
    block.read (other ++ rest) = block.read (word ++ rest) := by
  have hlower : lower (other ++ rest) = lower (word ++ rest) := by
    rw [lower_append, lower_append, same]
  have hknown : lower other ∈ keywords := same ▸ known
  have hlocation {w : Text} (hw : lower w ∈ keywords) : location? (w ++ rest) = none := by
    cases hloc : location? (w ++ rest) with
    | none => rfl
    | some text =>
      obtain ⟨more, heq⟩ := exists_eq_append_of_argument? hloc
      exact absurd ⟨more, heq.symm⟩ (not_prefix_of_known hw (by decide) rest)
  have hends {w : Text} (hw : lower w ∈ keywords) : endsPort (w ++ rest) = false := by
    have hapart : ∀ text ∈ ["exit".toList, ['!'], "end".toList], ∀ k ∈ keywords,
        ¬ k <+: lower text ∧ ¬ lower text <+: k := by decide
    rw [endsPort, ← Bool.not_eq_true, List.contains_iff_mem]
    intro hmem
    exact not_prefix_of_known hw (hapart _ hmem) rest List.prefix_rfl
  have hvlan : VlanStatement.ofLine? (other ++ rest) = VlanStatement.ofLine? (word ++ rest) := by
    rw [VlanStatement.ofLine?, VlanStatement.ofLine?,
      foldedArgument?_of_known known same (by decide),
      foldedArgument?_of_known known same (by decide),
      foldedArgument?_of_known known same (by decide),
      foldedArgument?_of_known known same (by decide), startsWithWord_eq hlower]
  have hport : PortStatement.ofLine? (other ++ rest) = PortStatement.ofLine? (word ++ rest) := by
    rw [PortStatement.ofLine?, PortStatement.ofLine?,
      foldedArgument?_of_known known same (by decide),
      foldedArgument?_of_known known same (by decide), startsWithWord_eq hlower,
      startsWithWord_eq hlower, sameIgnoringCase_eq hlower, sameIgnoringCase_eq hlower, hlower,
      foldedRun?_of_known known same (by decide), foldedRun?_of_known known same (by decide)]
  unfold Block.read Block.readOther
  rw [hlocation known, hlocation hknown, hends known, hends hknown, hvlan, hport,
    vlanHeader?, vlanHeader?, foldedRun?_of_known known same (by decide),
    portHeader?, portHeader?, afterBlank?, afterBlank?,
    afterKeyword?_of_known known same (by decide),
    hostname?, hostname?, foldedArgument?_of_known known same (by decide),
    endsVlan, endsVlan, sameIgnoringCase_eq hlower]

end

theorem ite_ne_trustMarking {c : Bool} {s : PortStatement} (hs : s ≠ .trustMarking) :
    (if c then some s else none) ≠ some .trustMarking := by
  cases c
  · exact fun h => by cases h
  · exact fun h => hs (Option.some.inj h)

/-- A line that makes a port trust the marking of what it receives does so in any letter case. -/
theorem PortStatement.trustMarking_congr {line other : Text} (same : lower line = lower other)
    (h : ofLine? line = some .trustMarking) : ofLine? other = some .trustMarking := by
  rw [ofLine?] at h
  obtain ⟨htext, h⟩ := orElse_eq_some h (by simp)
  obtain ⟨hnoPower, h⟩ := orElse_eq_some h (ite_ne_trustMarking (by simp))
  obtain ⟨hpower, h⟩ := orElse_eq_some h (ite_ne_trustMarking (by simp))
  obtain ⟨hdisable, h⟩ := orElse_eq_some h (ite_ne_trustMarking (by simp))
  obtain ⟨henable, h⟩ := orElse_eq_some h (ite_ne_trustMarking (by simp))
  obtain ⟨hname, hdescription⟩ := orElse_eq_none (Option.map_eq_none_iff.mp htext)
  have hmarks : occursIn "trust cos".toList (lower line) = true := by
    by_contra hno
    rw [if_neg hno] at h
    obtain ⟨_, h⟩ := orElse_eq_some h (by simp)
    simp at h
  rw [ofLine?, eq_none_of_lower (foldedArgument?_lower _) same hname,
    eq_none_of_lower (foldedArgument?_lower _) same hdescription, ← startsWithWord_eq same,
    hnoPower, ← startsWithWord_eq same, hpower, ← sameIgnoringCase_eq same, hdisable,
    ← sameIgnoringCase_eq same, henable, ← same, if_pos hmarks]
  rfl

/-- What a line starts with ends before a word in it that none of its endings agrees with. -/
theorem prefix_of_prefix_append {text front word rest : Text}
    (h : text <+: front ++ (word ++ rest))
    (apart : ∀ ending, ending <:+ text → ending ≠ [] → ¬ ending <+: word ∧ ¬ word <+: ending) :
    text <+: front := by
  rcases List.prefix_or_prefix_of_prefix h (List.prefix_append front _) with hin | ⟨ending, rfl⟩
  · exact hin
  by_cases hnil : ending = []
  · rw [hnil, List.append_nil]
  · have hrest : ending <+: word ++ rest := (List.prefix_append_right_inj front).mp h
    obtain ⟨hshort, hlong⟩ := apart ending (List.suffix_append front ending) hnil
    rcases List.prefix_or_prefix_of_prefix hrest (List.prefix_append word rest) with hin | hin
    · exact absurd hin hshort
    · exact absurd hin hlong

/-- The location of the device is not stated in another case of these words: they share no letters
with the end of its keyword. -/
theorem location?_eq_none_of_marking {word other : Text} (known : lower word = "trust cos".toList)
    (same : lower other = lower word) {front rest : Text}
    (h : location? (front ++ word ++ rest) = none) : location? (front ++ other ++ rest) = none := by
  cases hlocation : location? (front ++ other ++ rest) with
  | none => rfl
  | some text =>
    obtain ⟨more, heq⟩ := exists_eq_append_of_argument? hlocation
    have hends : ∀ ending ∈ "snmp-server location".toList.tails, ending ≠ [] →
        ¬ lower ending <+: "trust cos".toList ∧ ¬ "trust cos".toList <+: lower ending := by
      decide
    have hfront : "snmp-server location".toList <+: front := by
      rw [List.append_assoc] at heq
      refine prefix_of_prefix_append ⟨more, heq.symm⟩ fun ending hending hne => ?_
      obtain ⟨hshort, hlong⟩ := hends ending ((List.mem_tails _ _).mpr hending) hne
      rw [← known, ← same] at hshort hlong
      exact ⟨fun hin => hshort (hin.map Char.toLower), fun hin => hlong (hin.map Char.toLower)⟩
    obtain ⟨before, rfl⟩ := hfront
    rw [location?, List.append_assoc, List.append_assoc] at h hlocation
    have hsame : lower (before ++ (word ++ rest)) = lower (before ++ (other ++ rest)) := by
      simp only [lower_append, same]
    have hnone := @eq_none_of_lower (fun t => argument? "snmp-server location".toList
      ("snmp-server location".toList ++ t)) (argument?_append_lower _) _ _ hsame h
    rw [hnone] at hlocation
    cases hlocation

/-- A line in the block of a port that marks it does so in another case of these words. -/
theorem owns_of_marking {word other : Text} (known : lower word = "trust cos".toList)
    (same : lower other = lower word) {front rest id : Text}
    (h : (Block.port id).owns (front ++ word ++ rest) = true) :
    (Block.port id).owns (front ++ other ++ rest) = true := by
  have hsame : lower (front ++ word ++ rest) = lower (front ++ other ++ rest) := by
    simp only [lower_append, same]
  simp only [Block.owns, Bool.and_eq_true, Option.isNone_iff_eq_none, Bool.not_eq_true'] at h ⊢
  obtain ⟨⟨⟨⟨hlocation, hvlan⟩, hport⟩, hhostname⟩, -⟩ := h
  refine ⟨⟨⟨⟨location?_eq_none_of_marking known same hlocation,
    eq_none_of_lower vlanHeader?_lower hsame hvlan⟩,
    eq_none_of_lower portHeader?_lower hsame hport⟩, ?hostname⟩, ?ends⟩
  case hostname =>
    rw [hostname?, Option.map_eq_none_iff] at hhostname ⊢
    exact eq_none_of_lower (foldedArgument?_lower _) hsame hhostname
  case ends =>
    -- the lines that end a block are shorter than these words
    have hother : other.length = 9 :=
      (List.length_map Char.toLower).symm.trans (congrArg List.length (same.trans known))
    have hlong : 9 ≤ (front ++ other ++ rest).length := by
      simp only [List.length_append, hother]
      omega
    have hshort : ∀ text ∈ ["exit".toList, ['!'], "end".toList], text.length < 9 := by decide
    rw [endsPort, ← Bool.not_eq_true, List.contains_iff_mem]
    intro hmem
    have := hshort _ hmem
    omega

section

variable {line : Text} (h : lower line = "exit".toList)

include h

theorem location?_of_exit : location? line = none := by
  cases hlocation : location? line with
  | none => rfl
  | some text =>
    obtain ⟨rest, rfl⟩ := exists_eq_append_of_argument? hlocation
    have hlength := congrArg List.length h
    simp [lower] at hlength

theorem vlanHeader?_of_exit : vlanHeader? line = none :=
  eq_none_of_lower vlanHeader?_lower (a := "exit".toList) h.symm rfl

/-- In the block of a VLAN `exit` ends the block in any letter case. -/
theorem read_exit_vlan (id : Text) : (Block.vlan id).read line = (none, .none) := by
  have hends : endsVlan line = true := by
    rw [endsVlan, sameIgnoringCase, h]
    rfl
  unfold Block.read
  rw [location?_of_exit h, vlanHeader?_of_exit h]
  exact if_pos hends

theorem portStatement?_of_exit : PortStatement.ofLine? line = none := by
  have same : lower "exit".toList = lower line := h.symm
  rw [PortStatement.ofLine?, eq_none_of_lower (foldedArgument?_lower _) same rfl,
    eq_none_of_lower (foldedArgument?_lower _) same rfl, ← startsWithWord_eq same,
    ← startsWithWord_eq same, ← sameIgnoringCase_eq same, ← sameIgnoringCase_eq same, ← same,
    eq_none_of_lower (foldedRun?_lower (fun c => by rw [isBlank_toLower]) _) same rfl,
    eq_none_of_lower (foldedRun?_lower isDecimalDigit_toLower _) same rfl]
  rfl

/-- In the block of a port `exit` in any letter case does nothing but end the block, and that in
lower case only. -/
theorem read_exit_port (id : Text) : (Block.port id).read line =
    (none, if line = "exit".toList then Block.none else .port id) := by
  have same : lower "exit".toList = lower line := h.symm
  have hport : portHeader? line = none := eq_none_of_lower portHeader?_lower same rfl
  have hhostname : hostname? line = none := by
    rw [hostname?, eq_none_of_lower (foldedArgument?_lower _) same rfl]
    rfl
  have hends : endsPort line = decide (line = "exit".toList) := by
    have hmark : line ≠ ['!'] := by
      rintro rfl
      cases h
    have hend : line ≠ "end".toList := by
      rintro rfl
      cases h
    rw [endsPort, Bool.eq_iff_iff, List.contains_iff_mem, decide_eq_true_iff, List.mem_cons,
      List.mem_pair]
    exact ⟨fun hmem => hmem.resolve_right (not_or.mpr ⟨hmark, hend⟩), .inl⟩
  unfold Block.read Block.readOther
  rw [location?_of_exit h, vlanHeader?_of_exit h]
  simp only [hport, hhostname, hends, portStatement?_of_exit h]
  by_cases hline : line = "exit".toList
  · rw [if_pos hline, if_pos (decide_eq_true hline)]
  · rw [if_neg hline, if_neg (by simpa using hline)]

end

/-- A line of a block with a keyword in another letter case, and all else as it was: one that
introduces a statement, one that marks a port, or the one that ends the block of a VLAN. -/
inductive Recased (block : Block) : Text → Text → Prop
  | keyword {front word other rest : Text} (blank : ∀ c ∈ front, isBlank c = true)
      (known : lower word ∈ keywords) (same : lower other = lower word) :
      Recased block (front ++ word ++ rest) (front ++ other ++ rest)
  | marking {id front word other rest : Text} (port : block = .port id)
      (known : lower word = "trust cos".toList) (same : lower other = lower word)
      (owned : block.owns (trim (front ++ word ++ rest)) = true)
      (marks : PortStatement.ofLine? (trim (front ++ word ++ rest)) = some .trustMarking) :
      Recased block (front ++ word ++ rest) (front ++ other ++ rest)
  | exit {id front word other rest : Text} (vlan : block = .vlan id)
      (blank : ∀ c ∈ front, isBlank c = true) (known : lower word = "exit".toList)
      (same : lower other = lower word) (blankRest : ∀ c ∈ rest, isBlank c = true) :
      Recased block (front ++ word ++ rest) (front ++ other ++ rest)

theorem Recased.lower_eq {block : Block} {line other : Text} (h : Recased block line other) :
    lower other = lower line := by
  cases h with
  | keyword _ _ same | marking _ _ same | exit _ _ _ same => simp only [lower_append, same]

/-- A word in another letter case has no blanks at its ends either. -/
theorem trimmed_of_significant {word k : Text} (hk : Significant k) (h : lower word = k) :
    Trimmed word ∧ word ≠ [] := by
  refine ⟨trimmed_of_lower (h ▸ hk.trimmed), ?_⟩
  rintro rfl
  exact hk.ne_nil h.symm

/-- The line is there, without the blanks around it, and does the same. -/
theorem Recased.read_eq {block : Block} {line other : Text} (h : Recased block line other) :
    trim line ≠ [] ∧ trim other ≠ [] ∧ block.read (trim other) = block.read (trim line) := by
  cases h with
  | @keyword front word other rest blank known same =>
    obtain ⟨hword, hne⟩ := trimmed_of_significant (significant_of_known known) rfl
    obtain ⟨hother, hotherNe⟩ := trimmed_of_significant (significant_of_known known) same
    rw [trim_around hword hne, trim_around hother hotherNe, List.dropWhile_eq_nil_iff.mpr blank]
    exact ⟨by simp [hne], by simp [hotherNe], read_of_known known same block _⟩
  | @marking id front word other rest port known same owned marks =>
    subst port
    have hmarking : Significant "trust cos".toList :=
      significant_of_ends (by decide) (by decide) (by decide)
    obtain ⟨hword, hne⟩ := trimmed_of_significant hmarking known
    obtain ⟨hother, hotherNe⟩ := trimmed_of_significant hmarking (same.trans known)
    rw [trim_around hword hne] at owned marks ⊢
    rw [trim_around hother hotherNe, Block.read_owned owned,
      Block.read_owned (owns_of_marking known same owned), Block.statement?, Block.statement?, marks,
      PortStatement.trustMarking_congr (by simp only [lower_append, same]) marks]
    exact ⟨by simp [hne], by simp [hotherNe], rfl⟩
  | @exit id front word other rest vlan blank known same blankRest =>
    subst vlan
    have hexit : Significant "exit".toList :=
      significant_of_ends (by decide) (by decide) (by decide)
    obtain ⟨hword, hne⟩ := trimmed_of_significant hexit known
    obtain ⟨hother, hotherNe⟩ := trimmed_of_significant hexit (same.trans known)
    rw [trim_append_blanks _ blankRest, trim_append_of_blank _ _ blank, trim_eq_self hword,
      trim_append_blanks _ blankRest, trim_append_of_blank _ _ blank, trim_eq_self hother,
      read_exit_vlan known, read_exit_vlan (same.trans known)]
    exact ⟨hne, hotherNe, rfl⟩

theorem Recased.oneLine {block : Block} {line other : Text} (h : Recased block line other)
    (hone : OneLine line) : OneLine other := by
  intro hmem
  have hlower : '\n' ∈ lower line := by
    rw [← h.lower_eq]
    exact List.mem_map.mpr ⟨_, hmem, rfl⟩
  exact hone.lower hlower

inductive StatementRecased : Text → Text → Prop
  | intro {before after : List Text} {line other : Text} (oneLine : OneLine line)
      (recased : Recased (run (joinWith ['\n'] before)).block line other) :
      StatementRecased (joinWith ['\n'] (before ++ line :: after))
        (joinWith ['\n'] (before ++ other :: after))

/-- A text is read up to one of its lines, then this line, then the rest. -/
theorem run_joinWith {before after : List Text} {line : Text} (hone : OneLine line)
    (hne : trim line ≠ []) : run (joinWith ['\n'] (before ++ line :: after)) =
      (after.flatMap significantLines).foldl State.step
        ((run (joinWith ['\n'] before)).step (trim line)) := by
  have hline : significantLines line = [trim line] := by
    rw [significantLines_of_oneLine hone, if_neg hne]
  rw [run, run, significantLines_joinWith, significantLines_joinWith, List.flatMap_append,
    List.flatMap_cons, hline, List.foldl_append, List.singleton_append, List.foldl_cons]

theorem StatementRecased.run_eq {text other : Text} (h : StatementRecased text other) :
    run text = run other := by
  cases h with
  | intro oneLine recased =>
    obtain ⟨hline, hother, hread⟩ := recased.read_eq
    rw [run_joinWith oneLine hline, run_joinWith (recased.oneLine oneLine) hother, State.step_eq,
      State.step_eq, hread]

theorem run_eq_of_recased {text other : Text}
    (h : Relation.ReflTransGen StatementRecased text other) : run text = run other := by
  induction h with
  | refl => rfl
  | tail _ hstep ih => rw [ih, hstep.run_eq]

theorem ite_eq_ite_iff {α : Type} {p q : Prop} [Decidable p] [Decidable q] {a b : α} (h : a ≠ b) :
    (if p then a else b) = (if q then a else b) ↔ (p ↔ q) := by
  by_cases hp : p <;> by_cases hq : q <;> simp [hp, hq, h, h.symm]

/-- In the block of a port `exit` leads to the same state as `exit` in another case if and only if
both are in lower case or neither is. -/
theorem step_exit_eq_iff {state : State} {id line other : Text} (hblock : state.block = .port id)
    (hline : lower line = "exit".toList) (hother : lower other = "exit".toList) :
    state.step line = state.step other ↔ (line = "exit".toList ↔ other = "exit".toList) := by
  rw [State.step_eq, State.step_eq, hblock, read_exit_port hline, read_exit_port hother,
    State.mk.injEq, and_iff_right rfl]
  exact ite_eq_ite_iff (by simp)

/-- A text is read the same when keywords in it are written in another letter case: those that
introduce a statement, those that mark a port, and the `exit` of the block of a VLAN. The `exit` of
the block of a port may be written in another case as well if and only if that does not take it out
of lower case or into it. -/
theorem keywords_in_any_case {text other : Text}
    (h : Relation.ReflTransGen StatementRecased text other) :
    read text = read other ∧
    ∀ id line newLine, (run text).block = .port id → OneLine line → OneLine newLine →
      lower (trim line) = "exit".toList → lower (trim newLine) = "exit".toList →
        (run (text ++ '\n' :: line) = run (other ++ '\n' :: newLine) ↔
          (trim line = "exit".toList ↔ trim newLine = "exit".toList)) := by
  have hrun := run_eq_of_recased h
  refine ⟨by rw [read, hrun, read], ?exit⟩
  case exit =>
    intro id line newLine hblock hone hnewOne hexit hnewExit
    have hend {t l : Text} (hl : OneLine l) (he : lower (trim l) = "exit".toList) :
        run (t ++ '\n' :: l) = (run t).step (trim l) := by
      have hne : trim l ≠ [] := by
        intro hnil
        rw [hnil] at he
        cases he
      have hwhole : joinWith ['\n'] [t] = t := by simp [joinWith]
      have hjoin : t ++ '\n' :: l = joinWith ['\n'] ([t] ++ [l]) := by simp [joinWith]
      rw [hjoin, run_joinWith hl hne, hwhole]
      rfl
    rw [hend hone hexit, hend hnewOne hnewExit, ← hrun]
    exact step_exit_eq_iff hblock hexit hnewExit

def mixedBlocks : Text := "Vlan 10\n   Exit\ninterface 3\n   QoS Trust CoS".toList

theorem mixedBlocks_read :
    Relation.ReflTransGen StatementRecased mixedBlocks
        "VLAN 10\n   exit\ninterface 3\n   QoS TRUST cos".toList ∧
      read mixedBlocks = read "VLAN 10\n   exit\ninterface 3\n   QoS TRUST cos".toList ∧
      (run mixedBlocks).block = .port "3".toList ∧
      run (mixedBlocks ++ "\n   EXIT".toList) =
        run "VLAN 10\n   exit\ninterface 3\n   QoS TRUST cos\n   Exit".toList ∧
      run (mixedBlocks ++ "\n   EXIT".toList) ≠
        run "VLAN 10\n   exit\ninterface 3\n   QoS TRUST cos\n   exit".toList := by
  have hheader : StatementRecased mixedBlocks
      "VLAN 10\n   Exit\ninterface 3\n   QoS Trust CoS".toList :=
    @StatementRecased.intro [] ["   Exit".toList, "interface 3".toList, "   QoS Trust CoS".toList]
      _ _ (by decide) (@Recased.keyword _ [] "Vlan".toList "VLAN".toList " 10".toList (by simp)
        (by decide) (by decide))
  have hexit : StatementRecased "VLAN 10\n   Exit\ninterface 3\n   QoS Trust CoS".toList
      "VLAN 10\n   exit\ninterface 3\n   QoS Trust CoS".toList :=
    @StatementRecased.intro ["VLAN 10".toList] ["interface 3".toList, "   QoS Trust CoS".toList]
      _ _ (by decide) (@Recased.exit _ "10".toList "   ".toList "Exit".toList "exit".toList []
        (by decide +kernel) (List.all_eq_true.mp (by decide)) (by decide) (by decide) (by simp))
  have hmarking : StatementRecased "VLAN 10\n   exit\ninterface 3\n   QoS Trust CoS".toList
      "VLAN 10\n   exit\ninterface 3\n   QoS TRUST cos".toList :=
    @StatementRecased.intro ["VLAN 10".toList, "   exit".toList, "interface 3".toList] []
      _ _ (by decide) (@Recased.marking _ "3".toList "   QoS ".toList "Trust CoS".toList
        "TRUST cos".toList [] (by decide +kernel) (by decide) (by decide) (by decide +kernel)
        (by decide +kernel))
  have hsteps : Relation.ReflTransGen StatementRecased mixedBlocks
      "VLAN 10\n   exit\ninterface 3\n   QoS TRUST cos".toList :=
    ((Relation.ReflTransGen.single hheader).tail hexit).tail hmarking
  have hblock : (run mixedBlocks).block = .port "3".toList := by decide +kernel
  have hexits (line newLine : Text) (hone : OneLine line ∧ OneLine newLine)
      (hword : lower (trim line) = "exit".toList ∧ lower (trim newLine) = "exit".toList) :=
    (keywords_in_any_case hsteps).2 _ line newLine hblock hone.1 hone.2 hword.1 hword.2
  exact ⟨hsteps, (keywords_in_any_case hsteps).1, hblock,
    (hexits "   EXIT".toList "   Exit".toList (by decide) (by decide)).mpr (by decide),
    (hexits "   EXIT".toList "   exit".toList (by decide) (by decide)).not.mpr (by decide)⟩

/-- The end of a block of a port in capitals, and a statement behind it. -/
def openPort : Text := "interface 3\n   EXIT\npower-over-ethernet".toList

theorem openPort_supplied :
    read openPort ≠ read "interface 3\n   exit\npower-over-ethernet".toList ∧
      ((read openPort).ports.get? "3".toList).map Port.power = some .on ∧
      ((read "interface 3\n   exit\npower-over-ethernet".toList).ports.get? "3".toList).map
        Port.power = some .unspecified := by
  decide +kernel

end ProCurve

end SwitchDialects
