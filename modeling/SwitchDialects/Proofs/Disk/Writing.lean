import SwitchDialects.Disk

/-!
# Writing to a tree

A write puts a file at one place, where a file or nothing stood before. A path that leads to
something never passes through such a place, so it leads there after the write as well; and a path
that led to the place, or to the name that was free there, leads to the new file.
-/

namespace SwitchDialects.Disk

def Destination.place? : Destination → Option (List Text)
  | .found place => some place
  | .vacant directory name => some (directory ++ [name])
  | .fault _ => none

/-- Where a path leads once a file has been made at a place. -/
inductive Destination.Reaches (made : List Text) : Destination → List Text → Prop where
  | found (place : List Text) : Reaches made (.found place) place
  | made {directory : List Text} {name : Text} (h : directory ++ [name] = made) :
    Reaches made (.vacant directory name) made

theorem Destination.reaches_of_place? {destination : Destination} {place : List Text}
    (h : destination.place? = some place) : destination.Reaches place place := by
  cases destination with
  | found target =>
    cases h
    exact .found place
  | vacant directory name => exact .made (Option.some.inj h)
  | fault fault => cases h

namespace Tree

def text (tree : Tree) (path : Text) : Except Fault Text := (tree.read path).bind decode

/-- A place where a file stands, or nothing. -/
def Writable (tree : Tree) (place : List Text) : Prop :=
  ∀ node, tree.lookup place = some node → ∃ content, node = .file content

/-- The trees before and after a file was written: they differ in this file only. -/
structure Wrote (before after : Tree) (place : List Text) (content : ByteArray) : Prop where
  there : after.lookup place = some (.file content)
  elsewhere : ∀ other, other ≠ place → after.lookup other = before.lookup other
  working : after.working = before.working

variable {tree after : Tree} {place : List Text}

theorem Writable.ne_nil (h : tree.Writable place) : place ≠ [] := by
  rintro rfl
  obtain ⟨content, hfile⟩ := h .directory rfl
  cases hfile

theorem Writable.wrote_put (h : tree.Writable place) (content : ByteArray) :
    tree.Wrote (tree.put place (.file content)) place content where
  there := by rw [lookup_put h.ne_nil, if_pos rfl]
  elsewhere other hother := by rw [lookup_put h.ne_nil, if_neg hother]
  working := rfl

/-- A directory or link stands where it stood before the write. -/
theorem Writable.lookup_put_eq (h : tree.Writable place) (content : ByteArray)
    {other : List Text} {node : Node} (hnode : tree.lookup other = some node)
    (hkind : ∀ content, node ≠ .file content) :
    (tree.put place (.file content)).lookup other = some node := by
  have hother : other ≠ place := by
    rintro rfl
    obtain ⟨held, rfl⟩ := h node hnode
    exact hkind held rfl
  rw [lookup_put h.ne_nil, if_neg hother, hnode]

/-- A file stands where one stood before the write. -/
theorem Writable.lookup_put_file (h : tree.Writable place) (content : ByteArray)
    {other : List Text} {held : ByteArray} (hfile : tree.lookup other = some (.file held)) :
    ∃ now, (tree.put place (.file content)).lookup other = some (.file now) := by
  by_cases hother : other = place
  · exact ⟨content, by rw [lookup_put h.ne_nil, if_pos hother]⟩
  · exact ⟨held, by rw [lookup_put h.ne_nil, if_neg hother, hfile]⟩

/-- A step to a name goes by what stands there. -/
theorem followTo_name {next : List Text → List Text → Destination} {directory rest : List Text}
    {name : Text} (hhere : name ≠ here) (habove : name ≠ above) :
    tree.followTo next directory (name :: rest) =
      match tree.lookup (directory ++ [name]) with
      | some .directory => tree.followTo next (directory ++ [name]) rest
      | some (.file _) => if rest = [] then .found (directory ++ [name]) else .fault .notDirectory
      | some (.link target) =>
        next (if isAbsolute target then [] else directory) (steps target ++ rest)
      | none =>
        if !isName name then .fault .nameTooLong
        else if rest = [] then .vacant directory name
        else .fault .missing :=
  (if_neg hhere).trans (if_neg habove)

theorem lookup_of_followTo_vacant {next : List Text → List Text → Destination}
    (hnext : ∀ directory steps free name, next directory steps = .vacant free name →
      tree.lookup (free ++ [name]) = none) (steps : List Text) {directory free : List Text}
    {name : Text} (h : tree.followTo next directory steps = .vacant free name) :
    tree.lookup (free ++ [name]) = none := by
  induction steps generalizing directory with
  | nil => cases h
  | cons step rest ih =>
    by_cases hhere : step = here
    · rw [followTo, if_pos hhere] at h
      exact ih h
    by_cases habove : step = above
    · rw [followTo, if_neg hhere, if_pos habove] at h
      exact ih h
    rw [followTo_name hhere habove] at h
    split at h
    case h_1 => exact ih h
    case h_2 => split at h <;> cases h
    case h_3 => exact hnext _ _ _ _ h
    case h_4 hnone =>
      split at h
      · cases h
      · split at h
        · cases h
          exact hnone
        · cases h

theorem lookup_of_follow_vacant (links : Nat) {directory steps free : List Text} {name : Text}
    (h : tree.follow links directory steps = .vacant free name) :
    tree.lookup (free ++ [name]) = none := by
  induction links generalizing directory steps free name with
  | zero => exact lookup_of_followTo_vacant (fun _ _ _ _ hloop => by cases hloop) steps h
  | succ links ih => exact lookup_of_followTo_vacant (fun _ _ _ _ hnext => ih hnext) steps h

/-- Nothing stands where a path leads to a free name. -/
theorem lookup_of_resolve_vacant {path : Text} {free : List Text} {name : Text}
    (h : tree.resolve path = .vacant free name) : tree.lookup (free ++ [name]) = none := by
  rw [resolve] at h
  split at h
  · cases h
  · split at h
    · cases h
    · exact lookup_of_follow_vacant maxLinks h

theorem Writable.followTo_put (h : tree.Writable place) (content : ByteArray)
    {next later : List Text → List Text → Destination}
    (hnext : ∀ directory steps target, (next directory steps).Reaches place target →
      later directory steps = .found target) (steps : List Text) {directory target : List Text}
    (hreach : (tree.followTo next directory steps).Reaches place target) :
    (tree.put place (.file content)).followTo later directory steps = .found target := by
  induction steps generalizing directory with
  | nil =>
    cases hreach
    rfl
  | cons name rest ih =>
    by_cases hhere : name = here
    · rw [followTo, if_pos hhere] at hreach ⊢
      exact ih hreach
    by_cases habove : name = above
    · rw [followTo, if_neg hhere, if_pos habove] at hreach ⊢
      exact ih hreach
    rw [followTo_name hhere habove] at hreach ⊢
    cases hnode : tree.lookup (directory ++ [name]) with
    | none =>
      -- only a last step may lead nowhere, and then the new file stands there
      rw [hnode] at hreach
      by_cases hname : isName name = true
      · by_cases hrest : rest = []
        · simp only [hname, hrest, if_true, Bool.not_true, Bool.false_eq_true, if_false] at hreach
          cases hreach with
          | made hplace => simp [hplace, lookup_put h.ne_nil, hrest]
        · simp only [hname, hrest, if_false, Bool.not_true, Bool.false_eq_true] at hreach
          cases hreach
      · simp only [hname, Bool.not_false, if_true] at hreach
        cases hreach
    | some node =>
      rw [hnode] at hreach
      cases node with
      | directory =>
        rw [h.lookup_put_eq content hnode (by simp)]
        exact ih hreach
      | file held =>
        obtain ⟨now, hnow⟩ := h.lookup_put_file content hnode
        rw [hnow]
        by_cases hrest : rest = []
        · simp only [hrest, if_true] at hreach ⊢
          cases hreach
          rfl
        · simp only [hrest, if_false] at hreach
          cases hreach
      | link aim =>
        rw [h.lookup_put_eq content hnode (by simp)]
        exact hnext _ _ _ hreach

theorem Writable.follow_put (h : tree.Writable place) (content : ByteArray) (links : Nat)
    {directory steps target : List Text}
    (hreach : (tree.follow links directory steps).Reaches place target) :
    (tree.put place (.file content)).follow links directory steps = .found target := by
  induction links generalizing directory steps target with
  | zero => exact h.followTo_put content (fun _ _ _ hloop => by cases hloop) steps hreach
  | succ links ih => exact h.followTo_put content (fun _ _ _ hnext => ih hnext) steps hreach

/-- What a path leads to is still there after a write, or has been made by it. -/
theorem Writable.resolve_put (h : tree.Writable place) (content : ByteArray) {path : Text}
    {target : List Text} (hreach : (tree.resolve path).Reaches place target) :
    (tree.put place (.file content)).resolve path = .found target := by
  rw [resolve] at hreach ⊢
  split at hreach
  · cases hreach
  · split at hreach
    · cases hreach
    · rename_i hempty hlong
      rw [if_neg hempty, if_neg hlong]
      exact h.follow_put content maxLinks hreach

theorem read_eq_ok_iff {path : Text} {content : ByteArray} :
    tree.read path = .ok content ↔
      ∃ place, tree.resolve path = .found place ∧ tree.lookup place = some (.file content) := by
  rw [read]
  constructor
  · intro hread
    split at hread
    case h_1 place hplace =>
      split at hread
      case h_1 held hfile =>
        cases hread
        exact ⟨place, hplace, hfile⟩
      case h_2 => cases hread
    case h_2 => cases hread
    case h_3 => cases hread
  · rintro ⟨place, hplace, hfile⟩
    simp only [hplace, hfile]

/-- A file that holds the bytes of a text. -/
theorem text_of_read {path text : Text} (h : tree.read path = .ok (encode text)) :
    tree.text path = .ok text := by
  rw [Tree.text, h]
  exact decode_encode text

/-- A write that succeeds puts the file where the path leads, and a file or nothing stood there. -/
theorem put_of_write_eq_ok {path : Text} {content : ByteArray}
    (h : tree.write path content = .ok after) :
    ∃ place, (tree.resolve path).place? = some place ∧ tree.Writable place ∧
      after = tree.put place (.file content) := by
  rw [write] at h
  split at h
  case h_1 place hplace =>
    split at h
    case h_1 held hfile =>
      cases h
      refine ⟨place, by rw [hplace]; rfl, fun node hnode => ?_, rfl⟩
      exact ⟨held, Option.some.inj (hnode.symm.trans hfile)⟩
    case h_2 => cases h
  case h_2 directory name hvacant =>
    cases h
    refine ⟨directory ++ [name], by rw [hvacant]; rfl, fun node hnode => ?_, rfl⟩
    rw [lookup_of_resolve_vacant hvacant] at hnode
    cases hnode
  case h_3 => cases h

/-- What has been written is read back. -/
theorem Writable.read_put (h : tree.Writable place) (content : ByteArray) {path : Text}
    (hplace : (tree.resolve path).place? = some place) :
    (tree.put place (.file content)).read path = .ok content :=
  read_eq_ok_iff.mpr ⟨place, h.resolve_put content (Destination.reaches_of_place? hplace),
    (h.wrote_put content).there⟩

/-- A file at another place is read as before. -/
theorem Writable.read_put_of_ne (h : tree.Writable place) (content : ByteArray) {path : Text}
    {other : List Text} {held : ByteArray} (hother : tree.resolve path = .found other)
    (hfile : tree.lookup other = some (.file held)) (hne : other ≠ place) :
    (tree.put place (.file content)).read path = .ok held := by
  have hreach : (tree.resolve path).Reaches place other := by
    rw [hother]
    exact .found other
  refine read_eq_ok_iff.mpr ⟨other, h.resolve_put content hreach, ?_⟩
  rw [(h.wrote_put content).elsewhere other hne, hfile]

end Tree

end SwitchDialects.Disk
