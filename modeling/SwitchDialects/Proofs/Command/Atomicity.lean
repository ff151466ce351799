import SwitchDialects.Proofs.Command.Conversion

/-!
# A command changes one file or none

A command that fails leaves the tree as it found it, and so does one that only prints. A conversion
to a file changes the file that its path leads to and no other. Its source is another file: if both
paths led to one file, they would be compared by its place and found equal, and a path to a name
that is free cannot lead to the source, which has been read.
-/

namespace SwitchDialects.Command

open Disk

variable {tree after : Tree} {input path : Text} {place source : List Text}

/-- The paths of a conversion that goes on lead to two different places. -/
theorem place_ne_of_guarded (hguard : tree.guarded input (some path) = .ok ())
    (hplace : (tree.resolve path).place? = some place) (hsource : tree.resolve input = .found source)
    {bytes : ByteArray} (hfile : tree.lookup source = some (.file bytes)) : source ≠ place := by
  rintro rfl
  cases hpath : tree.resolve path with
  | found target =>
    rw [hpath] at hplace
    obtain rfl : target = source := Option.some.inj hplace
    have hsame : tree.identity path = tree.identity input := by
      simp only [Tree.identity, Tree.place?, hpath, hsource]
    simp [Tree.guarded, hsame] at hguard
  | vacant directory name =>
    rw [hpath] at hplace
    obtain rfl : directory ++ [name] = source := Option.some.inj hplace
    rw [Tree.lookup_of_resolve_vacant hpath] at hfile
    cases hfile
  | fault fault =>
    rw [hpath] at hplace
    cases hplace

/-- The source of a conversion can still be read after its output has been written. -/
theorem source_kept (hguard : tree.guarded input (some path) = .ok ())
    (hplace : (tree.resolve path).place? = some place) (hwritable : tree.Writable place)
    (content : ByteArray) {bytes : ByteArray} (hread : tree.read input = .ok bytes) :
    (tree.put place (.file content)).read input = .ok bytes := by
  obtain ⟨source, hsource, hfile⟩ := Tree.read_eq_ok_iff.mp hread
  have hne : source ≠ place := place_ne_of_guarded hguard hplace hsource hfile
  exact hwritable.read_put_of_ne content hsource hfile hne

/-- The file that a request is about. -/
def Request.file : Request → Text
  | .convert input .. => input
  | .inspect file .. => file
  | .detect file => file

def Request.output? : Request → Option Text
  | .convert _ output .. => output
  | .inspect .. => none
  | .detect _ => none

/-- A tree has changed in the file that a path led to, and another path leads to the same bytes as
before. -/
def Saved (tree after : Tree) (path input : Text) : Prop :=
  ∃ place content bytes, (tree.resolve path).place? = some place ∧ tree.Wrote after place content ∧
    tree.read input = .ok bytes ∧ after.read input = .ok bytes

/-- What a run of the program may do to a tree. -/
structure Atomic (tree : Tree) (arguments : List Text) (outcome : Outcome) (after : Tree) :
    Prop where
  failed : outcome.code ≠ 0 → after = tree
  saved : ∀ asked path, request arguments = .ok asked → asked.output? = some path →
    outcome.code = 0 → Saved tree after path asked.file
  silent : (∀ asked, request arguments = .ok asked → asked.output? = none) → after = tree

theorem Ends.saved {outcome : Outcome} {choice : SourceChoice} {target : TargetChoice}
    {profile : Option Text} (h : Ends tree input (some path) choice target profile outcome after)
    (hsuccess : outcome.code = 0) : Saved tree after path input := by
  cases h with
  | failed failure warnings => cases hsuccess
  | printed t errors hnowhere => cases hnowhere
  | written t path note errors after hpath hguard ht hwrite =>
    cases hpath
    obtain ⟨place, hplace, hwritable, rfl⟩ := Tree.put_of_write_eq_ok hwrite
    obtain ⟨text, d, site, htext, -⟩ := translation_eq_ok_iff.mp ht
    obtain ⟨bytes, hread⟩ : ∃ bytes, tree.read input = .ok bytes := by
      cases hread : tree.read input with
      | ok bytes => exact ⟨bytes, rfl⟩
      | error fault =>
        rw [Tree.text, hread] at htext
        cases htext
    exact ⟨place, _, bytes, hplace, hwritable.wrote_put _, hread,
      source_kept hguard hplace hwritable _ hread⟩

theorem Ends.unchanged {output : Option Text} {outcome : Outcome} {choice : SourceChoice}
    {target : TargetChoice} {profile : Option Text}
    (h : Ends tree input output choice target profile outcome after)
    (hcase : outcome.code ≠ 0 ∨ output = none) : after = tree := by
  cases h with
  | failed failure warnings => rfl
  | printed t errors hnowhere => rfl
  | written t path note errors after hpath hguard ht hwrite =>
    rcases hcase with hcode | hnone
    · exact absurd rfl hcode
    · rw [hpath] at hnone
      cases hnone

theorem Request.run_unchanged (asked : Request) {outcome : Outcome}
    (h : (asked.run Tree.access).run tree = (outcome, after))
    (hcase : outcome.code ≠ 0 ∨ asked.output? = none) : after = tree := by
  cases asked with
  | convert input output source target profile summary =>
    exact (convert_ends tree input output source target profile summary h).unchanged hcase
  | inspect file source format =>
    rw [← inspect_leaves tree file source format]
    exact (congrArg Prod.snd h).symm
  | detect file =>
    rw [← detect_leaves tree file]
    exact (congrArg Prod.snd h).symm

theorem Request.run_saved (asked : Request) {outcome : Outcome}
    (h : (asked.run Tree.access).run tree = (outcome, after)) (hpath : asked.output? = some path)
    (hsuccess : outcome.code = 0) : Saved tree after path asked.file := by
  cases asked with
  | convert input output source target profile summary =>
    obtain rfl : output = some path := hpath
    exact (convert_ends tree input _ source target profile summary h).saved hsuccess
  | inspect file source format => cases hpath
  | detect file => cases hpath

/-- A run of the program changes one file or none, and never the one that it reads. -/
theorem run_atomic (tree : Tree) (arguments : List Text) {outcome : Outcome}
    (h : (run Tree.access arguments).run tree = (outcome, after)) :
    Atomic tree arguments outcome after := by
  rw [run] at h
  cases hrequest : request arguments with
  | ok asked =>
    rw [hrequest] at h
    refine ⟨fun hcode => asked.run_unchanged h (.inl hcode), ?_, fun hsilent => ?_⟩
    · intro asked' path hasked hpath hsuccess
      obtain rfl : asked = asked' := Except.ok.inj (hrequest.symm.trans hasked)
      exact asked.run_saved h hpath hsuccess
    · exact asked.run_unchanged h (.inr (hsilent asked hrequest))
  | error refusal =>
    have hnone : ∀ asked, request arguments ≠ .ok asked := by simp [hrequest]
    have hleft : after = tree := by
      rw [hrequest] at h
      cases refusal <;> exact (congrArg Prod.snd h).symm
    exact ⟨fun _ => hleft, fun asked _ hasked => absurd hasked (hnone asked), fun _ => hleft⟩

/-- The configuration of a switch, and a link to a file that is yet to be made. -/
def archive (text : Text) : Tree where
  nodes :=
    [(["net".toList], .directory),
     (["net".toList, "old.cfg".toList], .file (encode text)),
     (["net".toList, "latest".toList], .link "../net/new.cfg".toList)]
  working := ["net".toList]

/-- The conversion of the archived configuration makes the file behind the link. -/
theorem convert_archive (text : Text) (choice : SourceChoice) (target : TargetChoice)
    {d : Direction} (hdirection : direction choice target text = .ok d) (summary : Bool) :
    ∃ note errors after, (convert Tree.access "old.cfg".toList (some "latest".toList) choice target
      none summary).run (archive text) = (⟨0, note, errors⟩, after) := by
  have hold : (archive text).resolve "old.cfg".toList =
      .found ["net".toList, "old.cfg".toList] := rfl
  have hlatest : (archive text).resolve "latest".toList =
      .vacant ["net".toList] "new.cfg".toList := rfl
  have htext : (archive text).text "old.cfg".toList = .ok text :=
    Tree.text_of_read (Tree.read_eq_ok_iff.mpr ⟨_, hold, rfl⟩)
  have hguard : (archive text).guarded "old.cfg".toList (some "latest".toList) = .ok () := rfl
  have ht : (archive text).translation "old.cfg".toList none choice target none =
      .ok (d.translate text .default) :=
    translation_eq_ok_iff.mpr ⟨text, d, .default, htext, hdirection, rfl, rfl⟩
  have hwrite (content : ByteArray) : (archive text).write "latest".toList content =
      .ok ((archive text).put ["net".toList, "new.cfg".toList] (.file content)) := by
    rw [Tree.write, hlatest]
    rfl
  obtain ⟨note, errors, hrun⟩ := convert_writes hguard ht (hwrite _) summary
  exact ⟨note, errors, _, hrun⟩

def archiving : List Text :=
  ["convert".toList, "old.cfg".toList, "-o".toList, "latest".toList, "--to".toList,
   "aruba6100".toList, "--from".toList, "hp".toList]

/-- A run that makes the file behind a link. -/
theorem archive_saved :
    ∃ outcome after, (run Tree.access archiving).run (archive "vlan 10\n   untagged 1-2".toList) =
      (outcome, after) ∧ outcome.code = 0 ∧
        Saved (archive "vlan 10\n   untagged 1-2".toList) after "latest".toList
          "old.cfg".toList := by
  have hrequest : request archiving = .ok (.convert "old.cfg".toList (some "latest".toList)
      .proCurve .aosCx none false) := rfl
  obtain ⟨note, errors, after, hconvert⟩ :=
    convert_archive "vlan 10\n   untagged 1-2".toList .proCurve .aosCx rfl false
  have hrun : (run Tree.access archiving).run (archive "vlan 10\n   untagged 1-2".toList) =
      (⟨0, note, errors⟩, after) := by
    rw [run, hrequest]
    exact hconvert
  exact ⟨_, after, hrun, rfl, (run_atomic _ archiving hrun).saved _ _ hrequest rfl rfl⟩

end SwitchDialects.Command
