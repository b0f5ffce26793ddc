import EnumBindings.Proofs.Command.FileTree

/-!
# Making directories

What making a directory with its parents does to a tree. Whether it succeeds or not, no file is
changed, and every new directory lies on the way to the path or is what the path leads to; it
succeeds wherever nothing is too long and no file is in the way.
-/

namespace EnumBindings.FileTree

variable {tree before between after : FileTree} {path : Path} {places others : Location → Prop}

/-- A tree with further directories, each of them at one of some places. All else is as it was. -/
structure Extends (places : Location → Prop) (before after : FileTree) : Prop where
  current : after.current = before.current
  file : ∀ location bytes, after.entryAt? location = some (.file bytes) ↔
    before.entryAt? location = some (.file bytes)
  kept : ∀ location, before.entryAt? location = some .directory →
    after.entryAt? location = some .directory
  made : ∀ location, after.entryAt? location = some .directory →
    before.entryAt? location = some .directory ∨ places location

theorem Extends.refl (places : Location → Prop) (tree : FileTree) : tree.Extends places tree :=
  ⟨rfl, fun _ _ => Iff.rfl, fun _ => id, fun _ => .inl⟩

theorem Extends.trans (hfirst : before.Extends places between)
    (hsecond : between.Extends places after) : before.Extends places after where
  current := hsecond.current.trans hfirst.current
  file := fun location bytes => (hsecond.file location bytes).trans (hfirst.file location bytes)
  kept := fun location hentry => hsecond.kept location (hfirst.kept location hentry)
  made := by
    intro location hentry
    rcases hsecond.made location hentry with hbetween | hplace
    · exact hfirst.made location hbetween
    · exact .inr hplace

theorem Extends.mono (hextends : before.Extends places after)
    (hplaces : ∀ location, places location → others location) : before.Extends others after :=
  { hextends with made := fun location hentry =>
      (hextends.made location hentry).imp_right (hplaces location) }

/-- A tree with another current directory has other paths, so an extension has the same. -/
theorem Extends.startOf_eq (hextends : before.Extends places after) (path : Path) :
    after.startOf path = before.startOf path := by
  rw [startOf, startOf, hextends.current]

theorem Extends.placeOf_eq (hextends : before.Extends places after) (path : Path) :
    after.placeOf path = before.placeOf path := by
  rw [placeOf, placeOf, hextends.startOf_eq]

theorem Extends.passes_iff (hextends : before.Extends places after) {location : Location} :
    after.Passes path location ↔ before.Passes path location := by
  rw [Passes, Passes, hextends.startOf_eq]

/-- A directory in an empty place is an extension. -/
theorem extends_put {place : Location} (hplace : tree.entryAt? place = none) :
    tree.Extends (· = place) (tree.put place .directory) := by
  have hroot : place ≠ [] := ne_nil_of_entryAt?_eq_none hplace
  refine ⟨rfl, ?_, ?_, ?_⟩
  · intro location bytes
    rw [entryAt?_put tree hroot]
    by_cases heq : location = place
    · simp [heq, hplace]
    · rw [if_neg heq]
  · intro location hentry
    rw [entryAt?_put tree hroot]
    by_cases heq : location = place
    · rw [if_pos heq]
    · rwa [if_neg heq]
  · intro location hentry
    rw [entryAt?_put tree hroot] at hentry
    by_cases heq : location = place
    · exact .inr heq
    · rw [if_neg heq] at hentry
      exact .inl hentry

/-! ## One directory -/

/-- What an attempt to make one directory comes to: it is made in an empty place, it is there
already, or the tree stays as it is and the path has a fault. -/
theorem makeDirectoryOnce_cases (tree : FileTree) (path : Path) :
    (∃ place, tree.locate path.toString = .ok place ∧ tree.entryAt? place = none ∧
      tree.makeDirectoryOnce path = ⟨tree.put place .directory, none⟩) ∨
    (∃ place, tree.locate path.toString = .ok place ∧ tree.entryAt? place = some .directory ∧
      tree.makeDirectoryOnce path = ⟨tree, none⟩) ∨
    (∃ place bytes, tree.locate path.toString = .ok place ∧
      tree.entryAt? place = some (.file bytes) ∧
      tree.makeDirectoryOnce path = ⟨tree, some ⟨.alreadyExists, path⟩⟩) ∨
    ∃ fault, tree.locate path.toString = .error fault ∧
      tree.makeDirectoryOnce path = ⟨tree, some ⟨fault, path⟩⟩ := by
  cases hlocate : tree.locate path.toString with
  | error fault =>
    refine .inr (.inr (.inr ⟨fault, rfl, ?_⟩))
    have hmake : tree.makeDirectory path = .error ⟨fault, path⟩ := by
      simp only [makeDirectory, hlocate]
    have hfind : tree.find? path.toString = none := by
      simp only [find?, hlocate]
    simp only [makeDirectoryOnce, hmake, hfind]
    cases fault <;> rfl
  | ok place =>
    have hfind : tree.find? path.toString = tree.entryAt? place := by
      simp only [find?, hlocate]
    cases hentry : tree.entryAt? place with
    | none =>
      refine .inl ⟨place, rfl, hentry, ?_⟩
      simp only [makeDirectoryOnce, makeDirectory, hlocate, hentry]
    | some entry =>
      have hmake : tree.makeDirectory path = .error ⟨.alreadyExists, path⟩ := by
        simp only [makeDirectory, hlocate, hentry]
      cases entry with
      | directory =>
        refine .inr (.inl ⟨place, rfl, hentry, ?_⟩)
        simp only [makeDirectoryOnce, hmake, hfind, hentry]
      | file bytes =>
        refine .inr (.inr (.inl ⟨place, bytes, rfl, hentry, ?_⟩))
        simp only [makeDirectoryOnce, hmake, hfind, hentry]

/-- An attempt changes at most what the path leads to. -/
theorem extends_makeDirectoryOnce (tree : FileTree) (hproper : path.Proper) :
    tree.Extends (· = tree.placeOf path) (tree.makeDirectoryOnce path).tree := by
  rcases tree.makeDirectoryOnce_cases path with ⟨place, hlocate, hentry, hmake⟩ |
    ⟨_, _, _, hmake⟩ | ⟨_, _, _, _, hmake⟩ | ⟨_, _, hmake⟩
  · obtain ⟨rfl, _⟩ := (locate_toString_eq_ok_iff hproper).mp hlocate
    rw [hmake]
    exact extends_put hentry
  · rw [hmake]
    exact .refl _ tree
  · rw [hmake]
    exact .refl _ tree
  · rw [hmake]
    exact .refl _ tree

/-- Where an attempt succeeds, the path leads to a directory afterwards, and its way was open. -/
theorem makeDirectoryOnce_succeeds (hproper : path.Proper)
    (hmade : (tree.makeDirectoryOnce path).error = none) :
    tree.locate path.toString = .ok (tree.placeOf path) ∧
      (tree.makeDirectoryOnce path).tree.entryAt? (tree.placeOf path) = some .directory := by
  rcases tree.makeDirectoryOnce_cases path with ⟨place, hlocate, hentry, hmake⟩ |
    ⟨place, hlocate, hentry, hmake⟩ | ⟨_, _, _, _, hmake⟩ | ⟨_, _, hmake⟩
  · obtain ⟨rfl, _⟩ := (locate_toString_eq_ok_iff hproper).mp hlocate
    have hroot : tree.placeOf path ≠ [] := ne_nil_of_entryAt?_eq_none hentry
    refine ⟨hlocate, ?_⟩
    rw [hmake, entryAt?_put tree hroot, if_pos rfl]
  · obtain ⟨rfl, _⟩ := (locate_toString_eq_ok_iff hproper).mp hlocate
    refine ⟨hlocate, ?_⟩
    rw [hmake]
    exact hentry
  · rw [hmake] at hmade
    cases hmade
  · rw [hmake] at hmade
    cases hmade

/-- Where the path leads to a place without a file, an attempt succeeds. -/
theorem makeDirectoryOnce_of_locate {place : Location}
    (hlocate : tree.locate path.toString = .ok place)
    (hfile : ∀ bytes, tree.entryAt? place ≠ some (.file bytes)) :
    (tree.makeDirectoryOnce path).error = none := by
  rcases tree.makeDirectoryOnce_cases path with ⟨_, _, _, hmake⟩ | ⟨_, _, _, hmake⟩ |
    ⟨_, bytes, hother, hentry, _⟩ | ⟨_, hother, _⟩
  · rw [hmake]
  · rw [hmake]
  · rw [hlocate] at hother
    obtain rfl := Except.ok.inj hother
    exact (hfile bytes hentry).elim
  · rw [hlocate] at hother
    cases hother

theorem makeDirectoryOnce_of_missing (hlocate : tree.locate path.toString = .error .missing) :
    (tree.makeDirectoryOnce path).error.map FileError.fault = some .missing := by
  rcases tree.makeDirectoryOnce_cases path with ⟨_, hother, _, _⟩ | ⟨_, hother, _, _⟩ |
    ⟨_, _, hother, _, _⟩ | ⟨fault, hother, hmake⟩
  · rw [hlocate] at hother
    cases hother
  · rw [hlocate] at hother
    cases hother
  · rw [hlocate] at hother
    cases hother
  · rw [hlocate] at hother
    obtain rfl := Except.error.inj hother
    rw [hmake]
    rfl

/-! ## Directories with their parents -/

/-- The places on the way to what a path leads to, and that place itself. -/
def Along (tree : FileTree) (path : Path) (place : Location) : Prop :=
  tree.Passes path place ∨ place = tree.placeOf path

/-- The places along the parent of a path are those that are passed on the way to what the path
leads to. -/
theorem along_parent_iff (tree : FileTree) (hparts : path.parts ≠ []) {place : Location} :
    tree.Along path.parent place ↔ tree.Passes path place := by
  have hconcat : path.parent.parts ++ [path.parts.getLast hparts] = path.parts :=
    List.dropLast_concat_getLast hparts
  rw [Passes, ← hconcat, onWay_concat_iff]
  rfl

theorem along_parent_of_passes {place : Location} (hplace : tree.Passes path place) :
    tree.Along path.parent place := by
  by_cases hparts : path.parts = []
  · rw [Passes, hparts] at hplace
    cases hplace
  · exact (tree.along_parent_iff hparts).mpr hplace

theorem along_of_along_parent {place : Location} (hplace : tree.Along path.parent place) :
    tree.Along path place := by
  by_cases hparts : path.parts = []
  · rwa [Path.parent_eq_self hparts] at hplace
  · exact .inl ((tree.along_parent_iff hparts).mp hplace)

/-- Making directories either is one attempt, or the directory above is made before the last one. -/
theorem makeDirectoriesWithin_succ_cases (tree : FileTree) (path : Path) (depth : Nat) :
    ((tree.makeDirectoryOnce path).error.map FileError.fault ≠ some .missing ∧
      tree.makeDirectoriesWithin path (depth + 1) = tree.makeDirectoryOnce path) ∨
    ((tree.makeDirectoryOnce path).error.map FileError.fault = some .missing ∧
      (tree.makeDirectoriesWithin path.parent depth).error ≠ none ∧
      tree.makeDirectoriesWithin path (depth + 1) =
        tree.makeDirectoriesWithin path.parent depth) ∨
    ((tree.makeDirectoryOnce path).error.map FileError.fault = some .missing ∧
      (tree.makeDirectoriesWithin path.parent depth).error = none ∧
      tree.makeDirectoriesWithin path (depth + 1) =
        (tree.makeDirectoriesWithin path.parent depth).tree.makeDirectoryOnce path) := by
  by_cases hmissing : (tree.makeDirectoryOnce path).error.map FileError.fault = some .missing
  · cases habove : (tree.makeDirectoriesWithin path.parent depth).error with
    | some error =>
      refine .inr (.inl ⟨hmissing, by simp, ?_⟩)
      simp only [makeDirectoriesWithin, hmissing, habove, Option.isSome_some, if_true]
    | none =>
      refine .inr (.inr ⟨hmissing, rfl, ?_⟩)
      simp only [makeDirectoriesWithin, hmissing, habove, Option.isSome_none, Bool.false_eq_true,
        if_false]
  · refine .inl ⟨hmissing, ?_⟩
    simp only [makeDirectoriesWithin]

/-- Making directories changes nothing but places along the path. -/
theorem extends_makeDirectoriesWithin (tree : FileTree) (depth : Nat) (hproper : path.Proper) :
    tree.Extends (tree.Along path) (tree.makeDirectoriesWithin path depth).tree := by
  induction depth generalizing path with
  | zero =>
    exact (tree.extends_makeDirectoryOnce hproper).mono fun _ => .inr
  | succ depth ih =>
    have habove := (ih hproper.parent).mono fun _ => along_of_along_parent
    rcases tree.makeDirectoriesWithin_succ_cases path depth with ⟨_, hmake⟩ | ⟨_, _, hmake⟩ |
      ⟨_, _, hmake⟩
    · rw [hmake]
      exact (tree.extends_makeDirectoryOnce hproper).mono fun _ => .inr
    · rw [hmake]
      exact habove
    · rw [hmake]
      refine habove.trans ((extends_makeDirectoryOnce _ hproper).mono ?_)
      rintro _ rfl
      exact .inr (habove.placeOf_eq path)

/-- A path whose way is open between two trees: nothing of it is too long, it starts from a
directory of the first, and all places along it are directories of the second. -/
structure Opened (before after : FileTree) (path : Path) : Prop where
  fits : path.Fits
  start : before.entryAt? (before.startOf path) = some .directory
  directory : ∀ place, before.Along path place → after.entryAt? place = some .directory

/-- An attempt that succeeds opens the way. -/
theorem opened_makeDirectoryOnce (hproper : path.Proper)
    (hmade : (tree.makeDirectoryOnce path).error = none) :
    tree.Opened (tree.makeDirectoryOnce path).tree path := by
  obtain ⟨hlocate, hentry⟩ := makeDirectoryOnce_succeeds hproper hmade
  obtain ⟨_, hfits, hstart, hways⟩ := (locate_toString_eq_ok_iff hproper).mp hlocate
  refine ⟨hfits, hstart, ?_⟩
  rintro place (hpasses | rfl)
  · exact (tree.extends_makeDirectoryOnce hproper).kept place (hways place hpasses)
  · exact hentry

/-- Making directories opens the way if it succeeds. -/
theorem opened_makeDirectoriesWithin {depth : Nat} (hproper : path.Proper)
    (hmade : (tree.makeDirectoriesWithin path depth).error = none) :
    tree.Opened (tree.makeDirectoriesWithin path depth).tree path := by
  induction depth generalizing path with
  | zero => exact opened_makeDirectoryOnce hproper hmade
  | succ depth ih =>
    rcases tree.makeDirectoriesWithin_succ_cases path depth with ⟨_, hmake⟩ |
      ⟨_, hfailed, hmake⟩ | ⟨_, habove, hmake⟩
    · rw [hmake] at hmade ⊢
      exact opened_makeDirectoryOnce hproper hmade
    · rw [hmake] at hmade
      exact (hfailed hmade).elim
    · rw [hmake] at hmade ⊢
      have hextends := tree.extends_makeDirectoriesWithin depth hproper.parent
      have hopened := opened_makeDirectoryOnce hproper hmade
      refine ⟨hopened.fits, (ih hproper.parent habove).start, ?_⟩
      intro place halong
      refine hopened.directory place ?_
      rcases halong with hpasses | hplace
      · exact .inl (hextends.passes_iff.mpr hpasses)
      · exact .inr (hplace.trans (hextends.placeOf_eq path).symm)

/-- A path that nothing stands in the way of: nothing of it is too long, it starts from a directory,
and no place along it is a file. -/
structure Passable (tree : FileTree) (path : Path) : Prop where
  fits : path.Fits
  start : tree.entryAt? (tree.startOf path) = some .directory
  noFile : ∀ place, tree.Along path place → ∀ bytes, tree.entryAt? place ≠ some (.file bytes)

theorem Passable.parent (hproper : path.Proper) (hpassable : tree.Passable path) :
    tree.Passable path.parent where
  fits := hpassable.fits.parent hproper
  start := hpassable.start
  noFile := fun place hplace => hpassable.noFile place (along_of_along_parent hplace)

/-- Where nothing stands in the way and every place on the way is a directory, the path leads to its
place. -/
theorem Passable.locate_eq (hproper : path.Proper) (hpassable : tree.Passable path)
    (hways : ∀ place, tree.Passes path place → tree.entryAt? place = some .directory) :
    tree.locate path.toString = .ok (tree.placeOf path) :=
  (locate_toString_eq_ok_iff hproper).mpr
    ⟨rfl, hpassable.fits, hpassable.start, hways⟩

/-- Such a path stays so when directories are made. -/
theorem Passable.extends (hpassable : tree.Passable path) (hextends : tree.Extends places after) :
    after.Passable path where
  fits := hpassable.fits
  start := by
    rw [hextends.startOf_eq]
    exact hextends.kept _ hpassable.start
  noFile := by
    intro place halong bytes hentry
    have hbefore := (hextends.file place bytes).mp hentry
    rcases halong with hpasses | hplace
    · exact hpassable.noFile place (.inl (hextends.passes_iff.mp hpasses)) bytes hbefore
    · exact hpassable.noFile place (.inr (hplace.trans (hextends.placeOf_eq path))) bytes hbefore

/-- Directories along such a path are made. -/
theorem Passable.error_makeDirectoriesWithin {depth : Nat} (hproper : path.Proper)
    (hpassable : tree.Passable path) (hdepth : path.parts.length ≤ depth) :
    (tree.makeDirectoriesWithin path depth).error = none := by
  induction depth generalizing path with
  | zero =>
    have hparts : path.parts = [] := List.length_eq_zero_iff.mp (Nat.le_zero.mp hdepth)
    have hways : ∀ place, tree.Passes path place → tree.entryAt? place = some .directory := by
      intro place hpasses
      rw [Passes, hparts] at hpasses
      cases hpasses
    exact makeDirectoryOnce_of_locate (hpassable.locate_eq hproper hways)
      (hpassable.noFile _ (.inr rfl))
  | succ depth ih =>
    have habove := ih hproper.parent (hpassable.parent hproper)
      (by rw [Path.parent, List.length_dropLast]; omega)
    rcases tree.makeDirectoriesWithin_succ_cases path depth with ⟨hother, hmake⟩ |
      ⟨_, hfailed, _⟩ | ⟨_, _, hmake⟩
    · rw [hmake]
      have hlocate := locate_toString_eq_ok_or_missing hproper hpassable.fits hpassable.start
        fun place hpasses => hpassable.noFile place (.inl hpasses)
      rcases hlocate with hfound | hmissing
      · exact makeDirectoryOnce_of_locate hfound (hpassable.noFile _ (.inr rfl))
      · exact (hother (makeDirectoryOnce_of_missing hmissing)).elim
    · exact (hfailed habove).elim
    · -- The directories above are there now, so that the last attempt finds its way.
      rw [hmake]
      have hextends := tree.extends_makeDirectoriesWithin depth hproper.parent
      have hopened := opened_makeDirectoriesWithin hproper.parent habove
      have hafter := hpassable.extends hextends
      refine makeDirectoryOnce_of_locate (hafter.locate_eq hproper ?_) (hafter.noFile _ (.inr rfl))
      intro place hpasses
      exact hopened.directory place (along_parent_of_passes (hextends.passes_iff.mp hpasses))

theorem extends_makeDirectories (tree : FileTree) (hproper : path.Proper) :
    tree.Extends (tree.Along path) (tree.makeDirectories path).tree :=
  tree.extends_makeDirectoriesWithin _ hproper

theorem opened_makeDirectories (hproper : path.Proper)
    (hmade : (tree.makeDirectories path).error = none) :
    tree.Opened (tree.makeDirectories path).tree path :=
  opened_makeDirectoriesWithin hproper hmade

theorem Passable.error_makeDirectories (hproper : path.Proper) (hpassable : tree.Passable path) :
    (tree.makeDirectories path).error = none :=
  hpassable.error_makeDirectoriesWithin hproper (Nat.le_refl _)

end EnumBindings.FileTree
