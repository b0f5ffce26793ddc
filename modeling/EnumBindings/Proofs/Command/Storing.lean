import EnumBindings.Proofs.Command.Directories

/-!
# Storing a file

When a file can be stored, and what a tree is after it. Storing a file succeeds exactly if nothing
of its path is too long, no file is on the way to it, and what it leads to is no directory and will
not be one; then the file has its bytes and every other file the bytes it had, and otherwise every
file has the bytes it had.
-/

namespace EnumBindings.FileTree

variable {tree : FileTree} {path : Path} {bytes : ByteArray}

/-- A path that a file can be stored under. Nothing of it is too long, it starts from a directory,
and no place on the way is a file, since those that are missing will be made directories. What it
leads to is no directory, nor a place that is passed on the way. -/
structure Opens (tree : FileTree) (path : Path) : Prop where
  fits : path.Fits
  start : tree.entryAt? (tree.startOf path) = some .directory
  noFile : ∀ place, tree.Passes path place → ∀ other, tree.entryAt? place ≠ some (.file other)
  notDirectory : tree.entryAt? (tree.placeOf path) ≠ some .directory
  notPassed : ¬ tree.Passes path (tree.placeOf path)

/-- A path that a file can be stored under has parts. -/
theorem Opens.parts_ne_nil (hopens : tree.Opens path) : path.parts ≠ [] := by
  intro hparts
  have hplace : tree.placeOf path = tree.startOf path := by rw [placeOf, hparts]; rfl
  exact hopens.notDirectory (hplace ▸ hopens.start)

/-- What writing a file comes to: the file is put where its path leads to, or the tree stays as it
is. -/
theorem writeFile_cases (tree : FileTree) (path : Path) (bytes : ByteArray) :
    (∃ place, tree.locate path.toString = .ok place ∧ tree.entryAt? place ≠ some .directory ∧
      tree.writeFile path bytes = ⟨tree.put place (.file bytes), none⟩) ∨
    (∃ error, tree.writeFile path bytes = ⟨tree, some error⟩ ∧
      ∀ place, tree.locate path.toString = .ok place → tree.entryAt? place = some .directory) := by
  cases hlocate : tree.locate path.toString with
  | error fault =>
    refine .inr ⟨⟨fault, path⟩, ?_, ?_⟩
    · simp only [writeFile, hlocate]
    · intro place hplace
      cases hplace
  | ok place =>
    by_cases hentry : tree.entryAt? place = some .directory
    · refine .inr ⟨⟨.isDirectory, path⟩, ?_, ?_⟩
      · simp only [writeFile, hlocate, hentry]
      · intro other hother
        exact Except.ok.inj hother ▸ hentry
    · refine .inl ⟨place, rfl, hentry, ?_⟩
      simp only [writeFile, hlocate]

/-- Storing a file ends with the directories above it if they cannot be made, and else with the file
itself. -/
theorem store_cases (tree : FileTree) (path : Path) (bytes : ByteArray) :
    ((tree.makeDirectories path.parent).error ≠ none ∧
      tree.store path bytes = tree.makeDirectories path.parent) ∨
    ((tree.makeDirectories path.parent).error = none ∧
      tree.store path bytes = (tree.makeDirectories path.parent).tree.writeFile path bytes) := by
  cases hmade : (tree.makeDirectories path.parent).error with
  | some error =>
    refine .inl ⟨Option.some_ne_none error, ?_⟩
    simp only [store, hmade, Option.isSome_some, if_true]
  | none =>
    refine .inr ⟨rfl, ?_⟩
    simp only [store, hmade, Option.isSome_none, Bool.false_eq_true, if_false]

/-- The directories above a path that a file can be stored under are made. -/
theorem Opens.error_makeDirectories (hproper : path.Proper) (hopens : tree.Opens path) :
    (tree.makeDirectories path.parent).error = none := by
  refine Passable.error_makeDirectories hproper.parent
    ⟨hopens.fits.parent hproper, hopens.start, ?_⟩
  intro place halong
  exact hopens.noFile place ((tree.along_parent_iff hopens.parts_ne_nil).mp halong)

/-- Then the path leads to a place without a directory. -/
theorem Opens.locate_eq (hproper : path.Proper) (hopens : tree.Opens path) :
    (tree.makeDirectories path.parent).tree.locate path.toString = .ok (tree.placeOf path) ∧
      (tree.makeDirectories path.parent).tree.entryAt? (tree.placeOf path) ≠ some .directory := by
  have hmade := hopens.error_makeDirectories hproper
  have hextends := tree.extends_makeDirectories hproper.parent
  have hopened := opened_makeDirectories hproper.parent hmade
  constructor
  · refine (locate_toString_eq_ok_iff hproper).mpr
      ⟨(hextends.placeOf_eq path).symm, hopens.fits, ?_, ?_⟩
    · rw [hextends.startOf_eq]
      exact hextends.kept _ hopens.start
    · intro place hpasses
      exact hopened.directory place (along_parent_of_passes (hextends.passes_iff.mp hpasses))
  · intro hdirectory
    rcases hextends.made _ hdirectory with hbefore | halong
    · exact hopens.notDirectory hbefore
    · exact hopens.notPassed ((tree.along_parent_iff hopens.parts_ne_nil).mp halong)

/-- Under such a path the file is put where the path leads to, once the directories are made. -/
theorem Opens.store_eq (hproper : path.Proper) (hopens : tree.Opens path) (bytes : ByteArray) :
    tree.store path bytes =
      ⟨(tree.makeDirectories path.parent).tree.put (tree.placeOf path) (.file bytes), none⟩ := by
  obtain ⟨hlocate, hentry⟩ := hopens.locate_eq hproper
  rcases tree.store_cases path bytes with ⟨hfailed, _⟩ | ⟨_, hstore⟩
  · exact (hfailed (hopens.error_makeDirectories hproper)).elim
  · rw [hstore]
    rcases writeFile_cases (tree.makeDirectories path.parent).tree path bytes with
      ⟨place, hplace, _, hwrite⟩ | ⟨error, _, hdirectory⟩
    · rw [hwrite, Except.ok.inj (hplace.symm.trans hlocate)]
    · exact (hentry (hdirectory _ hlocate)).elim

/-- What the tree has at each location then. -/
theorem Opens.entryAt?_store (hproper : path.Proper) (hopens : tree.Opens path)
    (bytes : ByteArray) (location : Location) :
    (tree.store path bytes).tree.entryAt? location =
      if location = tree.placeOf path then some (.file bytes)
      else (tree.makeDirectories path.parent).tree.entryAt? location := by
  have hentry := (hopens.locate_eq hproper).2
  rw [hopens.store_eq hproper, entryAt?_put _ (ne_nil_of_entryAt?_ne hentry)]

/-- The file lies on none of the places that are passed, which are all directories then. -/
theorem Opens.entryAt?_store_of_passes (hproper : path.Proper) (hopens : tree.Opens path)
    (bytes : ByteArray) {place : Location} (hpasses : tree.Passes path place) :
    (tree.store path bytes).tree.entryAt? place = some .directory := by
  have hopened := opened_makeDirectories hproper.parent (hopens.error_makeDirectories hproper)
  have hne : place ≠ tree.placeOf path := fun heq => hopens.notPassed (heq ▸ hpasses)
  rw [hopens.entryAt?_store hproper, if_neg hne]
  exact hopened.directory place (along_parent_of_passes hpasses)

theorem Opens.current_store (hproper : path.Proper) (hopens : tree.Opens path)
    (bytes : ByteArray) : (tree.store path bytes).tree.current = tree.current := by
  rw [hopens.store_eq hproper]
  exact (tree.extends_makeDirectories hproper.parent).current

/-- Then the path leads to the file. -/
theorem Opens.find?_store (hproper : path.Proper) (hopens : tree.Opens path)
    (bytes : ByteArray) :
    (tree.store path bytes).tree.find? path.toString = some (.file bytes) := by
  have hstart : (tree.store path bytes).tree.startOf path = tree.startOf path := by
    rw [startOf, startOf, hopens.current_store hproper]
  have hfound : (tree.store path bytes).tree.locate path.toString = .ok (tree.placeOf path) := by
    refine (locate_toString_eq_ok_iff hproper).mpr
      ⟨by rw [placeOf, placeOf, hstart], hopens.fits, ?_, ?_⟩
    · obtain ⟨first, rest, hfirst⟩ := List.exists_cons_of_ne_nil hopens.parts_ne_nil
      have hpasses : tree.Passes path (tree.startOf path) := by
        rw [Passes, hfirst]
        exact .here
      rw [hstart]
      exact hopens.entryAt?_store_of_passes hproper bytes hpasses
    · intro place hpasses
      rw [Passes, hstart] at hpasses
      exact hopens.entryAt?_store_of_passes hproper bytes hpasses
  simp only [find?, hfound, hopens.entryAt?_store hproper, if_pos]

/-- A file is stored exactly if its path allows it. -/
theorem error_store_eq_none_iff (hproper : path.Proper) :
    (tree.store path bytes).error = none ↔ tree.Opens path := by
  have hextends := tree.extends_makeDirectories hproper.parent
  constructor
  · intro hstored
    rcases tree.store_cases path bytes with ⟨hfailed, hstore⟩ | ⟨hmade, hstore⟩
    · exact (hfailed (hstore ▸ hstored)).elim
    · have hopened := opened_makeDirectories hproper.parent hmade
      rw [hstore] at hstored
      rcases writeFile_cases _ path bytes with ⟨place, hlocate, hentry, _⟩ | ⟨error, hwrite, _⟩
      · obtain ⟨hplace, hfits, _, hways⟩ := (locate_toString_eq_ok_iff hproper).mp hlocate
        rw [hplace, hextends.placeOf_eq] at hentry
        refine ⟨hfits, hopened.start, ?_, ?_, ?_⟩
        · intro place hpasses other hfile
          have hdirectory := hways place (hextends.passes_iff.mpr hpasses)
          rw [(hextends.file place other).mpr hfile] at hdirectory
          cases hdirectory
        · exact fun hdirectory => hentry (hextends.kept _ hdirectory)
        · exact fun hpasses => hentry (hways _ (hextends.passes_iff.mpr hpasses))
      · rw [hwrite] at hstored
        cases hstored
  · intro hopens
    rw [hopens.store_eq hproper]

/-- Where a file is not stored, the tree is left with at most more directories along its path. -/
theorem extends_store (hproper : path.Proper) (hfailed : (tree.store path bytes).error ≠ none) :
    tree.Extends (tree.Along path) (tree.store path bytes).tree := by
  have hextends := (tree.extends_makeDirectories hproper.parent).mono fun _ => along_of_along_parent
  rcases tree.store_cases path bytes with ⟨_, hstore⟩ | ⟨_, hstore⟩
  · rw [hstore]
    exact hextends
  · rw [hstore] at hfailed ⊢
    rcases writeFile_cases (tree.makeDirectories path.parent).tree path bytes with
      ⟨_, _, _, hwrite⟩ | ⟨_, hwrite, _⟩
    · rw [hwrite] at hfailed
      exact (hfailed rfl).elim
    · rw [hwrite]
      exact hextends

/-- What a tree is after a file has been stored: the path leads to the file with its bytes, all
other files are as they were, and the directories are those that were there and the ones on the
way. -/
structure Stored (before after : FileTree) (path : Path) (bytes : ByteArray) : Prop where
  current : after.current = before.current
  found : after.find? path.toString = some (.file bytes)
  file : ∀ location, location ≠ before.placeOf path → ∀ other,
    after.entryAt? location = some (.file other) ↔ before.entryAt? location = some (.file other)
  directory : ∀ location, after.entryAt? location = some .directory ↔
    before.entryAt? location = some .directory ∨ before.Passes path location

/-- A file is stored under a path that allows it. -/
theorem Opens.stored (hproper : path.Proper) (hopens : tree.Opens path) (bytes : ByteArray) :
    tree.Stored (tree.store path bytes).tree path bytes := by
  have hextends := tree.extends_makeDirectories hproper.parent
  have hput := hopens.entryAt?_store hproper bytes
  refine ⟨hopens.current_store hproper bytes, hopens.find?_store hproper bytes, ?_, ?_⟩
  · intro location hlocation other
    rw [hput, if_neg hlocation]
    exact hextends.file location other
  · intro location
    constructor
    · intro hdirectory
      rw [hput] at hdirectory
      by_cases heq : location = tree.placeOf path
      · rw [if_pos heq] at hdirectory
        cases hdirectory
      · rw [if_neg heq] at hdirectory
        exact (hextends.made location hdirectory).imp_right
          (tree.along_parent_iff hopens.parts_ne_nil).mp
    · rintro (hdirectory | hpasses)
      · have hne : location ≠ tree.placeOf path := by
          rintro rfl
          exact hopens.notDirectory hdirectory
        rw [hput, if_neg hne]
        exact hextends.kept location hdirectory
      · exact hopens.entryAt?_store_of_passes hproper bytes hpasses

end EnumBindings.FileTree
