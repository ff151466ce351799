import SwitchDialects.Proofs.ProCurve.Action
import SwitchDialects.Proofs.Text.LetterCase

/-!
# Lines by their first letter

A line is read under a keyword only if it starts with the first letter of the keyword, in whatever
case. So a line in the block of a VLAN that lists ports is no header, does not end the block and
says nothing about the device, however the keyword is written.
-/

namespace SwitchDialects.ProCurve

open Text

theorem afterKeyword?_eq_none {k : Char} {keyword line : Text}
    (h : line.head?.map foldLetter ≠ some k) : afterKeyword? (k :: keyword) line = none := by
  cases line with
  | nil => rfl
  | cons c line =>
    have hc : foldLetter c ≠ k := fun hsame => h (congrArg some hsame)
    rw [afterKeyword?, if_neg hc]

theorem foldedArgument?_eq_none {k : Char} {keyword line : Text}
    (h : line.head?.map foldLetter ≠ some k) : foldedArgument? (k :: keyword) line = none := by
  rw [foldedArgument?, afterBlank?, afterKeyword?_eq_none h]

theorem foldedRun?_eq_none {k : Char} {keyword line : Text} {inClass : Char → Bool}
    (h : line.head?.map foldLetter ≠ some k) : foldedRun? (k :: keyword) inClass line = none := by
  rw [foldedRun?, afterBlank?, afterKeyword?_eq_none h]
  rfl

theorem head_of_foldedArgument? {k : Char} {keyword line list : Text}
    (h : foldedArgument? (k :: keyword) line = some list) : line.head?.map foldLetter = some k := by
  by_contra hne
  rw [foldedArgument?_eq_none hne] at h
  cases h

/-- A line whose first letter is none of those of `exit`, of the location of the device and of the
header of a VLAN is left to the block of a VLAN. -/
theorem read_vlan_of_head {line : Text} {k : Char} (h : line.head?.map foldLetter = some k)
    (he : k ≠ 'e') (hs : k ≠ 's') (hv : k ≠ 'v') (id : Text) : (Block.vlan id).read line =
      ((VlanStatement.ofLine? line).map (.inVlan id), .vlan id) := by
  obtain ⟨c, rest, rfl⟩ : ∃ c rest, line = c :: rest := by
    cases line with
    | nil => cases h
    | cons c rest => exact ⟨c, rest, rfl⟩
  obtain rfl : foldLetter c = k := Option.some.inj h
  have hlocation : location? (c :: rest) = none := by
    have hc : 's' ≠ c := by
      rintro rfl
      exact hs (by decide)
    have hprefix : "snmp-server location".toList.isPrefixOf? (c :: rest) = none := by
      simp [List.isPrefixOf?, hc]
    rw [location?, argument?, hprefix]
  have hvlan : vlanHeader? (c :: rest) = none :=
    foldedRun?_eq_none fun hsame => hv (Option.some.inj hsame)
  have hends : endsVlan (c :: rest) = false := by
    refine beq_false_of_ne fun hsame => he ?_
    have hc : c.toLower = 'e' := (List.cons.inj hsame).1
    rw [← foldLetter_toLower, hc]
    rfl
  simp [Block.read, hlocation, hvlan, hends]

/-- The keywords that list ports in the block of a VLAN, each with the statement that it makes. -/
inductive PortKeyword : Text → (List Text → VlanStatement) → Prop
  | tagged : PortKeyword "tagged".toList .tagged
  | untagged : PortKeyword "untagged".toList .untagged

section

variable {keyword line list : Text} {make : List Text → VlanStatement}

/-- A line that lists ports is the statement that lists them. -/
theorem PortKeyword.read (h : PortKeyword keyword make)
    (hline : foldedArgument? keyword line = some list) (id : Text) : (Block.vlan id).read line =
      (some (.inVlan id (make (NumberList.ports list))), .vlan id) := by
  cases h with
  | tagged =>
    have hhead := head_of_foldedArgument? hline
    rw [read_vlan_of_head hhead (by decide) (by decide) (by decide), VlanStatement.ofLine?, hline]
    rfl
  | untagged =>
    have hhead := head_of_foldedArgument? hline
    have htagged : foldedArgument? "tagged".toList line = none :=
      foldedArgument?_eq_none (by rw [hhead]; decide)
    rw [read_vlan_of_head hhead (by decide) (by decide) (by decide), VlanStatement.ofLine?,
      htagged, hline]
    rfl

theorem PortKeyword.ne_nil (h : PortKeyword keyword make)
    (hline : foldedArgument? keyword line = some list) : line ≠ [] := by
  rintro rfl
  cases h <;> cases hline

end

end SwitchDialects.ProCurve
