import SwitchDialects.Proofs.Text.Lines
import SwitchDialects.Text.CharacterClass

/-!
# Letter case

Lower case changes the letters of ASCII and nothing else. A class of characters that holds all of
these letters or none does not tell the cases apart, so the blanks, the line feeds, the digits and
the ends of words are where they were, and a text is cut into the same pieces in either case.
-/

namespace SwitchDialects

theorem isUpper_iff {c : Char} : c.isUpper = true ↔ 65 ≤ c.toNat ∧ c.toNat ≤ 90 :=
  decide_eq_true_iff.trans (and_congr UInt32.le_iff_toNat_le UInt32.le_iff_toNat_le)

theorem isLower_iff {c : Char} : c.isLower = true ↔ 97 ≤ c.toNat ∧ c.toNat ≤ 122 :=
  (Bool.and_eq_true_iff.trans (and_congr decide_eq_true_iff decide_eq_true_iff)).trans
    (and_congr UInt32.le_iff_toNat_le UInt32.le_iff_toNat_le)

theorem isAlpha_iff {c : Char} : c.isAlpha = true ↔ c.isUpper = true ∨ c.isLower = true :=
  Bool.or_eq_true_iff

theorem toLower_of_not_isUpper {c : Char} (h : ¬ c.isUpper = true) : c.toLower = c :=
  dif_neg fun hcapital => h (decide_eq_true hcapital)

theorem isLower_toLower {c : Char} (h : c.isUpper = true) : c.toLower.isLower = true := by
  have hcapital := of_decide_eq_true h
  rw [isUpper_iff] at h
  have hcode : c.toLower.toNat = c.toNat + 32 := by
    have hsum : c.toLower.val = c.val + 32 := congrArg Char.val (dif_pos hcapital)
    have hwide : c.toNat + 32 < 2 ^ 32 := by omega
    rw [← Char.toNat_val, hsum, UInt32.toNat_add]
    exact Nat.mod_eq_of_lt hwide
  rw [isLower_iff, hcode]
  omega

/-- Letters stay letters. -/
theorem toLower_eq_self_or (c : Char) :
    c.toLower = c ∨ (c.isAlpha = true ∧ c.toLower.isAlpha = true) := by
  by_cases h : c.isUpper = true
  · exact .inr ⟨isAlpha_iff.mpr (.inl h), isAlpha_iff.mpr (.inr (isLower_toLower h))⟩
  · exact .inl (toLower_of_not_isUpper h)

theorem eq_of_toLower_eq {c d : Char} (hd : d.isAlpha = false) (h : c.toLower = d) : c = d := by
  rcases toLower_eq_self_or c with hsame | ⟨_, hlower⟩
  · exact hsame.symm.trans h
  · rw [h, hd] at hlower
    cases hlower

theorem toLower_of_isDigit {c : Char} (h : c.isDigit = true) : c.toLower = c := by
  refine toLower_of_not_isUpper fun hupper => ?_
  have hcapital := isUpper_iff.mp hupper
  have hdigit : c.toNat ≤ 57 := by
    simp only [Char.isDigit, Bool.and_eq_true, decide_eq_true_eq, UInt32.le_iff_toNat_le] at h
    exact h.2
  omega

theorem toLower_toLower (c : Char) : c.toLower.toLower = c.toLower := by
  by_cases h : c.isUpper = true
  · refine toLower_of_not_isUpper fun hupper => ?_
    have hlower := isLower_iff.mp (isLower_toLower h)
    have hupper := isUpper_iff.mp hupper
    omega
  · rw [toLower_of_not_isUpper h, toLower_of_not_isUpper h]

/-- What is the same for all letters is the same for a character in either case. -/
theorem apply_toLower {β : Type} {f : Char → β} (value : β)
    (h : ∀ c, c.isAlpha = true → f c = value) (c : Char) : f c.toLower = f c := by
  rcases toLower_eq_self_or c with hsame | ⟨hc, hlower⟩
  · rw [hsame]
  · rw [h c hc, h _ hlower]

theorem toNat_of_isAlpha {c : Char} (h : c.isAlpha = true) : 65 ≤ c.toNat ∧ c.toNat ≤ 122 := by
  rw [isAlpha_iff, isUpper_iff, isLower_iff] at h
  omega

@[simp] theorem isBlank_toLower (c : Char) : isBlank c.toLower = isBlank c := by
  refine apply_toLower false (fun c hc => ?_) c
  obtain ⟨hfirst, hlast⟩ := toNat_of_isAlpha hc
  simp only [isBlank, Bool.or_eq_false_iff, Bool.and_eq_false_iff, decide_eq_false_iff_not,
    beq_eq_false_iff_ne]
  omega

theorem isDecimalDigit_toLower (c : Char) : isDecimalDigit c.toLower = isDecimalDigit c := by
  refine apply_toLower false (fun c hc => ?_) c
  obtain ⟨hfirst, hlast⟩ := toNat_of_isAlpha hc
  have houtside : ∀ run ∈ decimalDigitRuns, run.2 < 65 ∨ 122 < run.1 := by decide
  refine List.any_eq_false.mpr fun run hrun => ?_
  have := houtside run hrun
  simp only [Bool.and_eq_true, decide_eq_true_eq]
  omega

theorem isWordCharacter_toLower (c : Char) : isWordCharacter c.toLower = isWordCharacter c := by
  refine apply_toLower true (fun c hc => ?_) c
  exact isWordCharacter_of_isAlphanum (by simp [Char.isAlphanum, hc])

theorem foldLetter_of_isAlpha {c : Char} (h : c.isAlpha = true) : foldLetter c = c.toLower := by
  obtain ⟨_, hlast⟩ := toNat_of_isAlpha h
  have hne {d : Char} (hd : 122 < d.toNat) : c ≠ d := fun hsame => absurd hd (by rw [← hsame]; omega)
  rw [foldLetter, if_neg (hne (by decide)), if_neg (hne (by decide))]

theorem foldLetter_toLower (c : Char) : foldLetter c.toLower = foldLetter c := by
  rcases toLower_eq_self_or c with hsame | ⟨hc, hlower⟩
  · rw [hsame]
  · rw [foldLetter_of_isAlpha hc, foldLetter_of_isAlpha hlower, toLower_toLower]

namespace Text

theorem lower_append (a b : Text) : lower (a ++ b) = lower a ++ lower b := List.map_append

theorem lower_lower (t : Text) : lower (lower t) = lower t := by
  rw [lower, lower, List.map_map]
  exact List.map_congr_left fun c _ => toLower_toLower c

@[simp] theorem isEmpty_lower (t : Text) : (lower t).isEmpty = t.isEmpty := List.isEmpty_map

theorem OneLine.lower {t : Text} (h : OneLine t) : OneLine (lower t) := by
  intro hmem
  obtain ⟨c, hc, hlower⟩ := List.mem_map.mp hmem
  exact h (eq_of_toLower_eq (by decide) hlower ▸ hc)

/-- What does not tell the cases apart is the same for texts that differ in letter case only. -/
theorem map_eq_of_lower {β : Type} {f : Char → β} (hf : ∀ c, f c.toLower = f c) {a b : Text}
    (h : lower a = lower b) : a.map f = b.map f := by
  have hlower (t : Text) : t.map f = (lower t).map f := by
    rw [lower, List.map_map]
    exact List.map_congr_left fun c _ => (hf c).symm
  rw [hlower a, hlower b, h]

theorem dropWhile_lower {inClass : Char → Bool} (h : ∀ c, inClass c.toLower = inClass c)
    (t : Text) : (lower t).dropWhile inClass = lower (t.dropWhile inClass) := by
  rw [lower, List.dropWhile_map, lower]
  exact congrArg (fun p => (t.dropWhile p).map Char.toLower) (funext h)

theorem trimmed_of_lower {t : Text} (h : Trimmed (lower t)) : Trimmed t where
  first c hc := by
    rw [← isBlank_toLower]
    exact h.first _ (by rw [lower, List.head?_map, hc]; rfl)
  last c hc := by
    rw [← isBlank_toLower]
    exact h.last _ (by rw [lower, List.getLast?_map, hc]; rfl)

theorem trim_lower (t : Text) : trim (lower t) = lower (trim t) := by
  have hreverse (s : Text) : (lower s).reverse = lower s.reverse := List.map_reverse.symm
  simp only [trim, stripEnds, dropWhile_lower isBlank_toLower, hreverse]

/-- The lines that a reader sees are the same in either case. -/
theorem significantLines_lower (t : Text) :
    significantLines (lower t) = (significantLines t).map lower := by
  have hnewline (c : Char) : c.toLower = '\n' ↔ c = '\n' := by
    refine ⟨eq_of_toLower_eq (by decide), ?_⟩
    rintro rfl
    rfl
  have htrim : trim ∘ List.map Char.toLower = lower ∘ trim := funext trim_lower
  have hempty : (fun line : Text => !line.isEmpty) ∘ lower = fun line => !line.isEmpty :=
    funext fun line => congrArg (! ·) (isEmpty_lower line)
  rw [significantLines, lower, splitOn_map hnewline, List.map_map, htrim, ← List.map_map,
    List.filter_map, hempty, significantLines]

theorem afterKeyword?_lower (keyword t : Text) :
    afterKeyword? keyword (lower t) = (afterKeyword? keyword t).map lower := by
  induction keyword generalizing t with
  | nil => rfl
  | cons k keyword ih =>
    cases t with
    | nil => rfl
    | cons c t =>
      have hcons : lower (c :: t) = c.toLower :: lower t := rfl
      rw [hcons, afterKeyword?, afterKeyword?, foldLetter_toLower]
      split
      · exact ih t
      · rfl

theorem afterBlank?_lower (keyword t : Text) :
    afterBlank? keyword (lower t) = (afterBlank? keyword t).map lower := by
  rw [afterBlank?, afterBlank?, afterKeyword?_lower]
  cases afterKeyword? keyword t with
  | none => rfl
  | some rest =>
    cases rest with
    | nil => rfl
    | cons c rest =>
      have hcons : lower (c :: rest) = c.toLower :: lower rest := rfl
      simp only [Option.map_some, hcons, isBlank_toLower]
      split
      · rw [Option.map_some, dropWhile_lower isBlank_toLower]
      · rfl

theorem foldedArgument?_lower (keyword t : Text) :
    foldedArgument? keyword (lower t) = (foldedArgument? keyword t).map lower := by
  rw [foldedArgument?, foldedArgument?, afterBlank?_lower]
  cases afterBlank? keyword t with
  | none => rfl
  | some rest =>
    cases rest with
    | nil => rfl
    | cons c rest => exact congrArg some (trim_lower (c :: rest))

theorem takeWhile_lower {inClass : Char → Bool} (h : ∀ c, inClass c.toLower = inClass c)
    (t : Text) : (lower t).takeWhile inClass = lower (t.takeWhile inClass) := by
  rw [lower, List.takeWhile_map, lower]
  exact congrArg (fun p => (t.takeWhile p).map Char.toLower) (funext h)

theorem foldedRun?_lower {inClass : Char → Bool} (h : ∀ c, inClass c.toLower = inClass c)
    (keyword t : Text) : foldedRun? keyword inClass (lower t) =
      (foldedRun? keyword inClass t).map lower := by
  rw [foldedRun?, foldedRun?, afterBlank?_lower]
  cases afterBlank? keyword t with
  | none => rfl
  | some rest =>
    simp only [Option.map_some, takeWhile_lower h]
    cases rest.takeWhile inClass <;> rfl

theorem argument?_append_lower (keyword t : Text) :
    argument? keyword (keyword ++ lower t) = (argument? keyword (keyword ++ t)).map lower := by
  have hprefix (s : Text) : keyword.isPrefixOf? (keyword ++ s) = some s :=
    List.isPrefixOf?_eq_some_iff_append_eq.mpr rfl
  rw [argument?, argument?, hprefix, hprefix]
  cases t with
  | nil => rfl
  | cons c t =>
    have hcons : lower (c :: t) = c.toLower :: lower t := rfl
    have htrim : trim (c.toLower :: lower t) = lower (trim (c :: t)) := trim_lower (c :: t)
    simp only [hcons, htrim, isBlank_toLower, isEmpty_lower]
    split <;> rfl

/-- What such a reader finds nothing in, it finds nothing in when written in another case. -/
theorem eq_none_of_lower {reader : Text → Option Text}
    (hreader : ∀ t, reader (lower t) = (reader t).map lower) {a b : Text}
    (h : lower a = lower b) (hnone : reader a = none) : reader b = none := by
  have hlower : (reader b).map lower = none := by
    rw [← hreader, ← h, hreader, hnone]
    rfl
  exact Option.map_eq_none_iff.mp hlower

end Text

end SwitchDialects
