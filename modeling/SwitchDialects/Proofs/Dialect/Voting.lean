import Mathlib.Logic.Relation
import SwitchDialects.Dialect
import SwitchDialects.Proofs.Text.LetterCase

/-!
# The vote on a dialect

The guess depends on how many lines vote for each dialect and on nothing else. So two texts that
are taken for the same dialect are taken for it together, as the votes add up, and neither the order
of the lines nor blanks, in lines of their own or around other lines, nor letter case make a
difference.
-/

namespace SwitchDialects

namespace Text

/-- Blanks in front of a text are no line of it and are trimmed off the first one. -/
theorem significantLines_blanks_append {front : Text} (h : ∀ c ∈ front, isBlank c = true)
    (t : Text) : significantLines (front ++ t) = significantLines t := by
  induction front with
  | nil => rfl
  | cons c front ih =>
    rw [List.forall_mem_cons] at h
    rw [List.cons_append, ← ih h.2]
    by_cases hc : c = '\n'
    · rw [hc, ← List.nil_append ('\n' :: _), significantLines_append]
      rfl
    · obtain ⟨first, others, hsplit⟩ :=
        List.exists_cons_of_ne_nil (List.splitOn_ne_nil '\n' (front ++ t))
      simp only [significantLines, splitOn_cons, hsplit, if_neg hc, List.modifyHead_cons,
        List.map_cons, trim_blank_cons h.1]

theorem significantLines_append_blanks {back : Text} (h : ∀ c ∈ back, isBlank c = true) (t : Text) :
    significantLines (t ++ back) = significantLines t := by
  induction back generalizing t with
  | nil => rw [List.append_nil]
  | cons c back ih =>
    rw [List.forall_mem_cons] at h
    rw [List.append_cons, ih h.2]
    by_cases hc : c = '\n'
    · rw [hc, significantLines_append]
      exact List.append_nil _
    · obtain ⟨pieces, last, hpieces, happend⟩ :=
        splitOn_append_of_notMem (List.mem_singleton.not.mpr (Ne.symm hc)) t
      simp only [significantLines, hpieces, happend, List.map_append, List.map_singleton,
        trim_append_blanks last (List.forall_mem_singleton.mpr h.1)]

end Text

namespace Dialect

open Text

theorem detect?_eq_of_votes {a b : Text} (h : ∀ d, votes a d = votes b d) :
    detect? a = detect? b := by
  have hleads : leads a = leads b := funext fun d => by simp only [leads, h]
  rw [detect?, hleads, detect?]

theorem vote?_lower (line : Text) : vote? (lower line) = vote? line := by
  rw [vote?, lower_lower, vote?]

/-- Lines in lower case, in whatever order, settle the guess. -/
theorem detect?_eq_of_perm {a b : Text}
    (h : ((significantLines a).map lower).Perm ((significantLines b).map lower)) :
    detect? a = detect? b := by
  have hvotes (t : Text) (d : Dialect) :
      votes t d = (((significantLines t).map lower).filterMap vote?).count d := by
    rw [List.filterMap_map, votes]
    exact congrArg (fun f => (List.filterMap f _).count d) (funext fun l => (vote?_lower l).symm)
  refine detect?_eq_of_votes fun d => ?_
  rw [hvotes, hvotes]
  exact (h.filterMap vote?).count_eq d

/-- A dialect that leads in two texts leads in them together. -/
theorem leads_append {a b : Text} {d : Dialect} (ha : leads a d = true) (hb : leads b d = true) :
    leads (a ++ '\n' :: b) d = true := by
  rw [leads_iff] at ha hb ⊢
  intro other hother
  rw [votes_append, votes_append]
  exact Nat.add_lt_add (ha other hother) (hb other hother)

/-- A change of a text that is none of what its lines say. -/
inductive Retouched : Text → Text → Prop
  | reordered {lines others : List Text} (h : lines.Perm others) :
    Retouched (joinWith ['\n'] lines) (joinWith ['\n'] others)
  | blankLine (before after : List Text) {blank : Text} (h : ∀ c ∈ blank, isBlank c = true) :
    Retouched (joinWith ['\n'] (before ++ after)) (joinWith ['\n'] (before ++ blank :: after))
  | padded (before after : List Text) (line : Text) {front back : Text}
    (hfront : ∀ c ∈ front, isBlank c = true) (hback : ∀ c ∈ back, isBlank c = true) :
    Retouched (joinWith ['\n'] (before ++ line :: after))
      (joinWith ['\n'] (before ++ (front ++ line ++ back) :: after))
  | recased {text other : Text} (h : lower text = lower other) : Retouched text other

/-- The same lines are left, letter case and order aside. -/
theorem Retouched.perm {a b : Text} (h : Retouched a b) :
    ((significantLines a).map lower).Perm ((significantLines b).map lower) := by
  cases h with
  | reordered h =>
    rw [significantLines_joinWith, significantLines_joinWith]
    exact (h.flatMap_right significantLines).map lower
  | @blankLine before after blank h =>
    have hblank := significantLines_append_blanks h []
    rw [List.nil_append] at hblank
    rw [significantLines_joinWith, significantLines_joinWith, List.flatMap_append,
      List.flatMap_append, List.flatMap_cons, hblank]
    exact .refl _
  | padded before after line hfront hback =>
    rw [significantLines_joinWith, significantLines_joinWith, List.flatMap_append,
      List.flatMap_append, List.flatMap_cons, List.flatMap_cons,
      significantLines_append_blanks hback, significantLines_blanks_append hfront]
  | recased h => rw [← significantLines_lower, h, significantLines_lower]

/-- The guess is the dialect with more votes than every other one. Two texts with the same guess
keep it when they are put together, and no number of changes to what the lines do not say alters
it. -/
theorem guess_is_vote :
    (∀ text d, detect? text = some d ↔ ∀ other, other ≠ d → votes text other < votes text d) ∧
    (∀ a b d, detect? a = some d → detect? b = some d → detect? (a ++ '\n' :: b) = some d) ∧
    ∀ a b, Relation.EqvGen Retouched a b → detect? a = detect? b := by
  refine ⟨fun text d => detect?_eq_some_iff.trans leads_iff, ?together, ?retouched⟩
  case together =>
    intro a b d ha hb
    rw [detect?_eq_some_iff] at ha hb ⊢
    exact leads_append ha hb
  case retouched =>
    intro a b h
    induction h with
    | rel a b h => exact detect?_eq_of_perm h.perm
    | refl a => rfl
    | symm a b _ ih => exact ih.symm
    | trans a b c _ _ ihab ihbc => exact ihab.trans ihbc

def mixedLines : List Text :=
  ["Switchport mode access".toList, "tagged 5".toList, "Interface VLAN10".toList]

def shuffledLines : List Text :=
  ["\t".toList ++ "Interface VLAN10".toList ++ "  ".toList, [], "Switchport mode access".toList,
   "tagged 5".toList]

theorem shuffledLines_guessed :
    Relation.EqvGen Retouched (lower (joinWith ['\n'] mixedLines)) (joinWith ['\n'] shuffledLines) ∧
      detect? (joinWith ['\n'] mixedLines) = some ios ∧
      detect? (joinWith ['\n'] shuffledLines) = some ios ∧
      detect? (joinWith ['\n'] mixedLines ++ '\n' :: joinWith ['\n'] shuffledLines) = some ios := by
  have hcase : Retouched (lower (joinWith ['\n'] mixedLines)) (joinWith ['\n'] mixedLines) :=
    .recased (lower_lower _)
  have horder : Retouched (joinWith ['\n'] mixedLines)
      (joinWith ['\n'] (["Interface VLAN10".toList] ++
        ["Switchport mode access".toList, "tagged 5".toList])) := .reordered (by decide)
  have hblank := @Retouched.blankLine ["Interface VLAN10".toList]
    ["Switchport mode access".toList, "tagged 5".toList] [] (by simp)
  have hpadded : Retouched _ (joinWith ['\n'] shuffledLines) :=
    .padded [] [[], "Switchport mode access".toList, "tagged 5".toList] "Interface VLAN10".toList
      (List.all_eq_true.mp (by decide)) (List.all_eq_true.mp (by decide))
  have hmixed : Relation.EqvGen Retouched (joinWith ['\n'] mixedLines)
      (joinWith ['\n'] shuffledLines) :=
    .trans _ _ _ (.rel _ _ horder) (.trans _ _ _ (.rel _ _ hblank) (.rel _ _ hpadded))
  have hguess : detect? (joinWith ['\n'] mixedLines) = some ios := by decide +kernel
  have hshuffled := (guess_is_vote.2.2 _ _ hmixed).symm.trans hguess
  exact ⟨.trans _ _ _ (.rel _ _ hcase) hmixed, hguess, hshuffled,
    guess_is_vote.2.1 _ _ ios hguess hshuffled⟩

end Dialect

end SwitchDialects
