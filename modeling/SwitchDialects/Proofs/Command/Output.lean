import SwitchDialects.Proofs.Command.Atomicity
import SwitchDialects.Proofs.Endings
import SwitchDialects.Proofs.Recognition

/-!
# What a conversion puts out

A translation is written to a file with its last line ended, unless it is empty or the line is ended
already, and printed with a line feed behind it in any case. No output is empty or ends its last
line, so the file holds what would have been printed.

Every output is recognized as what it was written for. So a file that was written as ProCurve can be
converted to AOS-CX without saying what it is.
-/

namespace SwitchDialects.Command

open Disk

/-- A translation leaves its last line open. -/
theorem unterminated_translation {tree : Tree} {input : Text} {source : SourceChoice}
    {target : TargetChoice} {profile : Option Text} {t : Translation}
    (ht : tree.translation input none source target profile = .ok t) :
    Text.Unterminated t.output := by
  obtain ⟨text, d, site, -, -, -, rfl⟩ := translation_eq_ok_iff.mp ht
  exact unterminated_output d text site

/-- No output is empty or ends its last line, so whatever a conversion writes to a file it prints
where no file is asked for. -/
theorem sinks_agree :
    (∀ (d : Direction) (text : Text) (profile : SiteProfile),
      (d.translate text profile).output ≠ [] ∧
        (d.translate text profile).output.getLast? ≠ some '\n') ∧
    ∀ (tree after : Tree) (input path : Text) (source : SourceChoice) (target : TargetChoice)
      (profile : Option Text) (summary : Bool) (written : Outcome),
      (convert Tree.access input (some path) source target profile summary).run tree =
        (written, after) → written.code = 0 →
      ∃ printed, (convert Tree.access input none source target profile summary).run tree =
        (printed, tree) ∧ printed.code = 0 ∧ after.read path = .ok (encode printed.output) := by
  constructor
  · intro d text profile
    have hopen := unterminated_output d text profile
    exact ⟨hopen.ne_nil, hopen.getLast?_ne⟩
  · intro tree after input path source target profile summary written hrun hsuccess
    cases convert_ends tree input (some path) source target profile summary hrun with
    | failed failure warnings => cases hsuccess
    | printed t errors hnowhere => cases hnowhere
    | written t path note errors after hpath hguard ht hwrite =>
      cases hpath
      obtain ⟨errors, hprint⟩ := convert_prints ht summary
      obtain ⟨place, hplace, hwritable, rfl⟩ := Tree.put_of_write_eq_ok hwrite
      refine ⟨_, hprint, rfl, ?_⟩
      rw [hwritable.read_put _ hplace, (unterminated_translation ht).terminated]

/-- The archived configuration, and what would have been printed. -/
theorem archive_sinks_agree :
    ∃ written after printed,
      (convert Tree.access "old.cfg".toList (some "latest".toList) .ios .aosCx none true).run
        (archive "vlan 10".toList) = (written, after) ∧ written.code = 0 ∧
      (convert Tree.access "old.cfg".toList none .ios .aosCx none true).run
        (archive "vlan 10".toList) = (printed, archive "vlan 10".toList) ∧
      after.read "latest".toList = .ok (encode printed.output) := by
  obtain ⟨note, errors, after, hrun⟩ := convert_archive "vlan 10".toList .ios .aosCx rfl true
  obtain ⟨printed, hprint, -, hread⟩ := sinks_agree.2 _ _ _ _ _ _ _ _ _ hrun rfl
  exact ⟨_, after, printed, hrun, rfl, hprint, hread⟩

open Disk

theorem target_of_direction {source : SourceChoice} {target : TargetChoice} {text : Text}
    {d : Direction} (h : direction source target text = .ok d) : d.target = target.dialect := by
  obtain ⟨dialect, _, h⟩ := of_bind_eq_ok h
  cases hbetween : Direction.between? dialect target.dialect with
  | none =>
    rw [hbetween] at h
    cases h
  | some found =>
    rw [hbetween] at h
    cases h
    exact (Direction.between?_eq_some_iff.mp hbetween).2

/-- A text that is recognized as ProCurve needs no more to be converted. -/
theorem direction_auto {text : Text} (h : Dialect.detect? text = some .proCurve) :
    direction .auto .aosCx text = .ok .proCurveToAosCx := by
  have hsource : SourceChoice.auto.dialect text = .ok .proCurve := by
    rw [SourceChoice.dialect, h]
  rw [direction, hsource]
  rfl

/-- Every output is recognized, under a recognizable profile if it is written for AOS-CX, and a file
written as ProCurve can be converted to AOS-CX without naming its dialect. -/
theorem output_recognized :
    (∀ (d : Direction) (text : Text) (profile : SiteProfile),
      (d.target = .aosCx → profile.Recognizable) →
        Dialect.detect? (d.translate text profile).output = some d.target) ∧
    ∀ (tree after : Tree) (input path : Text) (source : SourceChoice) (profile : Option Text)
      (summary : Bool) (written : Outcome),
      (convert Tree.access input (some path) source .proCurve profile summary).run tree =
        (written, after) → written.code = 0 →
      ∃ text, after.text path = .ok text ∧ direction .auto .aosCx text = .ok .proCurveToAosCx ∧
        ∀ (again : Option Text) (site : SiteProfile) (counted : Bool),
          after.siteProfile again = .ok site →
          ∃ printed, (convert Tree.access path none .auto .aosCx again counted).run after =
            (printed, after) ∧ printed.code = 0 := by
  refine ⟨fun d text profile h => detect?_output d text h, ?_⟩
  intro tree after input path source profile summary written hrun hsuccess
  cases convert_ends tree input (some path) source .proCurve profile summary hrun with
  | failed failure warnings => cases hsuccess
  | printed t errors hnowhere => cases hnowhere
  | written t path note errors after hpath hguard ht hwrite =>
    cases hpath
    obtain ⟨place, hplace, hwritable, rfl⟩ := Tree.put_of_write_eq_ok hwrite
    have htext : (tree.put place (.file (encode (Text.terminated t.output)))).text path =
        .ok (Text.terminated t.output) := Tree.text_of_read (hwritable.read_put _ hplace)
    obtain ⟨text, d, site, -, hdirection, -, rfl⟩ := translation_eq_ok_iff.mp ht
    have htarget : d.target = .proCurve := target_of_direction hdirection
    have hdetected : Dialect.detect? (d.translate text site).output = some .proCurve := by
      rw [← htarget]
      exact detect?_output d text fun haosCx => by rw [htarget] at haosCx; cases haosCx
    have hagain := direction_auto (detect?_newline hdetected)
    rw [(unterminated_output d text site).terminated] at htext ⊢
    refine ⟨_, htext, hagain, fun again site' counted hsite => ?_⟩
    have htranslated := translation_eq_ok_iff.mpr ⟨_, _, site', htext, hagain, hsite, rfl⟩
    obtain ⟨errors, hprint⟩ := convert_prints htranslated counted
    exact ⟨_, hprint, rfl⟩

/-- The default profile is recognizable, and the archived configuration can be converted again. -/
theorem archive_recognized :
    SiteProfile.default.Recognizable ∧
      Dialect.detect? (Direction.iosToAosCx.translate "vlan 10".toList .default).output =
        some .aosCx ∧
      ∃ written after, (convert Tree.access "old.cfg".toList (some "latest".toList) .ios .proCurve
          none true).run (archive "vlan 10".toList) = (written, after) ∧ written.code = 0 ∧
        ∃ text, after.text "latest".toList = .ok text ∧
          direction .auto .aosCx text = .ok .proCurveToAosCx := by
  have hsite : SiteProfile.default.Recognizable := ⟨by decide, by decide, by decide⟩
  obtain ⟨note, errors, after, hrun⟩ := convert_archive "vlan 10".toList .ios .proCurve rfl true
  obtain ⟨text, htext, hdirection, -⟩ := output_recognized.2 _ _ _ _ _ _ _ _ hrun rfl
  exact ⟨hsite, output_recognized.1 .iosToAosCx _ _ fun _ => hsite,
    _, after, hrun, rfl, text, htext, hdirection⟩

end SwitchDialects.Command
