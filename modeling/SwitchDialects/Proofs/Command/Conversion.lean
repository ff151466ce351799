import SwitchDialects.Command.Run
import SwitchDialects.Proofs.Disk.Writing

/-!
# Conversions in a tree

All of a conversion but its output only looks at the tree: what it comes to is a function of the
tree. The output is written last, in one step, and only a translation that has come about is
written. The commands that print never write.
-/

namespace SwitchDialects

open Command Disk

namespace Disk.Tree

/-- The parts by which a path is compared in a tree. -/
def identity (tree : Tree) (path : Text) : List Text :=
  match tree.place? path with
  | some place => components (ofParts place)
  | none =>
    if isAbsolute path then components path
    else components (ofParts tree.working) ++ components path

def guarded (tree : Tree) (input : Text) : Option Text → Except Failure Unit
  | none => .ok ()
  | some output =>
    if tree.identity output = tree.identity input then .error (.overwritesSource output input)
    else .ok ()

def source (tree : Tree) (file : Text) : Except Failure Text :=
  (tree.text file).mapError fun _ => .unreadable file

def siteProfile (tree : Tree) : Option Text → Except Failure SiteProfile
  | none => .ok .default
  | some file => (SiteProfile.load (tree.text file)).mapError fun _ => .profile file

/-- What a conversion of a file of a tree comes to, before anything is written. -/
def translation (tree : Tree) (input : Text) (output : Option Text) (source : SourceChoice)
    (target : TargetChoice) (profile : Option Text) : Except Failure Translation := do
  tree.guarded input output
  let text ← tree.source input
  let direction ← direction source target text
  return direction.translate text (← tree.siteProfile profile)

def network (tree : Tree) (file : Text) (source : SourceChoice) : Except Failure Network := do
  let text ← tree.source file
  let dialect ← source.dialect text
  match dialect.read? text with
  | some network => return network
  | none => throw (.noReader dialect)

end Disk.Tree

namespace Command

variable {α β : Type} {tree after : Tree} {input file : Text} {output profile : Option Text}
  {source : SourceChoice} {target : TargetChoice} {t : Translation}

/-- A computation has a result in a tree and leaves the tree as it is. -/
def Looks (tree : Tree) (x : ExceptT Failure (StateM Tree) α) (result : Except Failure α) : Prop :=
  StateT.run x.run tree = (result, tree)

theorem Looks.bind {x : ExceptT Failure (StateM Tree) α} {result : Except Failure α}
    {f : α → ExceptT Failure (StateM Tree) β} {g : α → Except Failure β} (hx : Looks tree x result)
    (hf : ∀ a, result = .ok a → Looks tree (f a) (g a)) : Looks tree (x >>= f) (result >>= g) := by
  have hrun : StateT.run (x >>= f).run tree =
      StateT.run (ExceptT.bindCont f (StateT.run x.run tree).1) (StateT.run x.run tree).2 := rfl
  rw [Looks, hrun, hx]
  cases result with
  | error failure => rfl
  | ok a => exact hf a rfl

/-- A look that cannot fail comes first. -/
theorem Looks.lift_bind {x : StateM Tree α} {a : α} {f : α → ExceptT Failure (StateM Tree) β}
    {result : Except Failure β} (hx : x.run tree = (a, tree)) (hf : Looks tree (f a) result) :
    Looks tree ((liftM x : ExceptT Failure (StateM Tree) α) >>= f) result := by
  have hlift : Looks tree (liftM x : ExceptT Failure (StateM Tree) α) (.ok a) :=
    congrArg (fun p : α × Tree => (Except.ok p.1, p.2)) hx
  exact hlift.bind fun _ ha => Except.ok.inj ha ▸ hf

/-- A step that does not concern the tree. -/
theorem looks_of (tree : Tree) (result : Except Failure α) :
    Looks tree (liftM result : ExceptT Failure (StateM Tree) α) result := by
  cases result <;> rfl

theorem run_bind_of {x : StateM Tree α} {f : α → StateM Tree β} {a : α}
    (hx : x.run tree = (a, after)) : (x >>= f).run tree = (f a).run after := by
  rw [StateT.run_bind, hx]
  rfl

theorem run_canonical? (tree : Tree) (path : Text) :
    (Tree.access.canonical? path).run tree = ((tree.place? path).map ofParts, tree) := rfl

theorem run_read (tree : Tree) (file : Text) :
    (Tree.access.read file).run tree = (tree.text file, tree) := rfl

theorem run_write (tree : Tree) (path text : Text) :
    (Tree.access.write path text).run tree =
      ((tree.write path (encode text)).map fun _ => (),
        (tree.write path (encode text)).toOption.getD tree) := by
  simp only [Tree.access, StateT.run_bind, StateT.run_get, pure_bind]
  cases tree.write path (encode text) with
  | ok after => rfl
  | error fault => rfl

theorem run_identity (tree : Tree) (path : Text) :
    (identity Tree.access path).run tree = (tree.identity path, tree) := by
  rw [identity, Tree.identity, run_bind_of (run_canonical? tree path)]
  cases tree.place? path with
  | some place => rfl
  | none =>
    cases isAbsolute path with
    | true => rfl
    | false => rfl

theorem looks_guardSource (tree : Tree) (input : Text) (output : Option Text) :
    Looks tree (guardSource Tree.access input output) (tree.guarded input output) := by
  cases output with
  | none => rfl
  | some path =>
    refine .lift_bind (run_identity tree path) (.lift_bind (run_identity tree input) ?_)
    rw [Tree.guarded]
    split <;> rfl

theorem looks_readSource (tree : Tree) (file : Text) :
    Looks tree (readSource Tree.access file) (tree.source file) := by
  refine .lift_bind (run_read tree file) ?_
  rw [Tree.source]
  cases tree.text file <;> rfl

theorem looks_loadProfile (tree : Tree) (profile : Option Text) :
    Looks tree (loadProfile Tree.access profile) (tree.siteProfile profile) := by
  cases profile with
  | none => rfl
  | some file =>
    refine .lift_bind (run_read tree file) ?_
    rw [Tree.siteProfile]
    cases SiteProfile.load (tree.text file) <;> rfl

theorem looks_translate (tree : Tree) (input : Text) (output : Option Text) (source : SourceChoice)
    (target : TargetChoice) (profile : Option Text) :
    Looks tree (translate Tree.access input output source target profile)
      (tree.translation input output source target profile) := by
  refine (looks_guardSource tree input output).bind fun _ _ => ?_
  refine (looks_readSource tree input).bind fun text _ => ?_
  refine (looks_of tree (direction source target text)).bind fun d _ => ?_
  exact (looks_loadProfile tree profile).bind fun site _ => rfl

/-- The path of the output decides nothing but whether it may be written. -/
theorem translation_of_guarded (h : tree.guarded input output = .ok ()) :
    tree.translation input output source target profile =
      tree.translation input none source target profile := by
  rw [Tree.translation, h]
  rfl

theorem of_bind_eq_ok {x : Except Failure α} {f : α → Except Failure β} {b : β}
    (h : x >>= f = .ok b) : ∃ a, x = .ok a ∧ f a = .ok b := by
  cases x with
  | error failure => cases h
  | ok a => exact ⟨a, rfl, h⟩

theorem of_mapError_eq_ok {ε : Type} {x : Except ε α} {f : ε → Failure} {a : α}
    (h : x.mapError f = .ok a) : x = .ok a := by
  cases x with
  | error e => cases h
  | ok b =>
    cases h
    rfl

theorem translation_eq_ok_iff :
    tree.translation input none source target profile = .ok t ↔
      ∃ text d site, tree.text input = .ok text ∧ direction source target text = .ok d ∧
        tree.siteProfile profile = .ok site ∧ t = d.translate text site := by
  constructor
  · intro h
    obtain ⟨_, _, h⟩ := of_bind_eq_ok h
    obtain ⟨text, htext, h⟩ := of_bind_eq_ok h
    obtain ⟨d, hdirection, h⟩ := of_bind_eq_ok h
    obtain ⟨site, hsite, h⟩ := of_bind_eq_ok h
    exact ⟨text, d, site, of_mapError_eq_ok htext, hdirection, hsite, (Except.ok.inj h).symm⟩
  · rintro ⟨text, d, site, htext, hdirection, hsite, rfl⟩
    have hsource : tree.source input = .ok text := by rw [Tree.source, htext]; rfl
    have hguard : tree.guarded input none = .ok () := rfl
    rw [Tree.translation, hguard, hsource, hsite]
    exact congrArg (· >>= fun d => Except.ok (d.translate text site)) hdirection

/-- What a conversion does once it is known what it comes to. -/
theorem run_convert (tree : Tree) (input : Text) (output : Option Text) (source : SourceChoice)
    (target : TargetChoice) (profile : Option Text) (summary : Bool) :
    (convert Tree.access input output source target profile summary).run tree =
      match tree.translation input output source target profile with
      | .error failure => (.failure failure, tree)
      | .ok t =>
        let warnings := warnings input t.summary
        let counts := t.summary.render ++ ['\n']
        match output with
        | none =>
          ({ code := 0, output := t.output ++ ['\n']
             errors := warnings ++ if summary then counts else [] }, tree)
        | some path =>
          match tree.write path (encode (Text.terminated t.output)) with
          | .error _ => (.failure (.unwritable path) warnings, tree)
          | .ok after =>
            ({ code := 0, output := "wrote ".toList ++ path ++ '\n' :: counts
               errors := warnings }, after) := by
  have hlook : StateT.run (translate Tree.access input output source target profile).run tree =
      (tree.translation input output source target profile, tree) :=
    looks_translate tree input output source target profile
  rw [convert, run_bind_of hlook]
  cases tree.translation input output source target profile with
  | error failure => rfl
  | ok t =>
    cases output with
    | none => rfl
    | some path =>
      dsimp only
      rw [run_bind_of (run_write tree path (Text.terminated t.output))]
      cases tree.write path (encode (Text.terminated t.output)) with
      | error fault => rfl
      | ok after => rfl

/-- How a conversion can end, with the tree that it leaves. -/
inductive Ends (tree : Tree) (input : Text) (output : Option Text) (source : SourceChoice)
    (target : TargetChoice) (profile : Option Text) : Outcome → Tree → Prop where
  | failed (failure : Failure) (warnings : Text) :
    Ends tree input output source target profile (.failure failure warnings) tree
  | printed (t : Translation) (errors : Text) (hnowhere : output = none)
    (ht : tree.translation input none source target profile = .ok t) :
    Ends tree input output source target profile ⟨0, t.output ++ ['\n'], errors⟩ tree
  | written (t : Translation) (path note errors : Text) (after : Tree) (hpath : output = some path)
    (hguard : tree.guarded input output = .ok ())
    (ht : tree.translation input none source target profile = .ok t)
    (hwrite : tree.write path (encode (Text.terminated t.output)) = .ok after) :
    Ends tree input output source target profile ⟨0, note, errors⟩ after

theorem convert_ends (tree : Tree) (input : Text) (output : Option Text) (source : SourceChoice)
    (target : TargetChoice) (profile : Option Text) (summary : Bool) {outcome : Outcome}
    (h : (convert Tree.access input output source target profile summary).run tree =
      (outcome, after)) :
    Ends tree input output source target profile outcome after := by
  rw [run_convert] at h
  cases ht : tree.translation input output source target profile with
  | error failure =>
    rw [ht] at h
    cases h
    exact .failed failure []
  | ok t =>
    have hguard : tree.guarded input output = .ok () := (of_bind_eq_ok ht).choose_spec.1
    rw [ht] at h
    rw [translation_of_guarded hguard] at ht
    cases output with
    | none =>
      cases h
      exact .printed t _ rfl ht
    | some path =>
      dsimp only at h
      cases hwrite : tree.write path (encode (Text.terminated t.output)) with
      | error fault =>
        rw [hwrite] at h
        cases h
        exact .failed (.unwritable path) _
      | ok written =>
        rw [hwrite] at h
        cases h
        exact .written t path _ _ after rfl hguard ht hwrite

/-- A translation that comes about is printed where no output is asked for. -/
theorem convert_prints (ht : tree.translation input none source target profile = .ok t)
    (summary : Bool) :
    ∃ errors, (convert Tree.access input none source target profile summary).run tree =
      (⟨0, t.output ++ ['\n'], errors⟩, tree) := by
  rw [run_convert, ht]
  exact ⟨_, rfl⟩

/-- A translation that comes about is written where the paths and the tree allow it. -/
theorem convert_writes {path : Text} (hguard : tree.guarded input (some path) = .ok ())
    (ht : tree.translation input none source target profile = .ok t)
    (hwrite : tree.write path (encode (Text.terminated t.output)) = .ok after) (summary : Bool) :
    ∃ note errors,
      (convert Tree.access input (some path) source target profile summary).run tree =
        (⟨0, note, errors⟩, after) := by
  rw [run_convert, translation_of_guarded hguard, ht]
  dsimp only
  rw [hwrite]
  exact ⟨_, _, rfl⟩

theorem inspect_leaves (tree : Tree) (file : Text) (source : SourceChoice) (format : Format) :
    ((inspect Tree.access file source format).run tree).2 = tree := by
  have hlook : Looks tree
      (do
        let text ← readSource Tree.access file
        let dialect ← (source.dialect text : Except _ _)
        match dialect.read? text with
        | some network => return network
        | none => throw (.noReader dialect)) (tree.network file source) := by
    refine (looks_readSource tree file).bind fun text _ => ?_
    refine (looks_of tree (source.dialect text)).bind fun dialect _ => ?_
    cases dialect.read? text <;> rfl
  refine (congrArg Prod.snd (run_bind_of hlook)).trans ?_
  cases tree.network file source with
  | error failure => rfl
  | ok network => cases format <;> rfl

theorem detect_leaves (tree : Tree) (file : Text) :
    ((detect Tree.access file).run tree).2 = tree := by
  have hlook : StateT.run (readSource Tree.access file).run tree = (tree.source file, tree) :=
    looks_readSource tree file
  rw [detect, run_bind_of hlook]
  cases tree.source file <;> rfl

end Command

end SwitchDialects
