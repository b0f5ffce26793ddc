import EnumBindings.Command.FileTree
import EnumBindings.Proofs.Command.Path

/-!
# Changes of a file tree

What a tree has at a location after an entry was put somewhere, where a path leads, and what it
means that one tree extends another by directories. A path leads to a place exactly if every place
on the way there is a directory and neither a name nor the spelling is too long.
-/

namespace EnumBindings

/-- A path of which nothing is too long: neither its spelling nor one of its names. -/
structure Path.Fits (path : Path) : Prop where
  spelling : path.toString.utf8ByteSize ≤ spellingLimit
  names : ∀ part ∈ path.parts, part.utf8ByteSize ≤ nameLimit

/-- Then nothing of the path above it is too long. -/
theorem Path.Fits.parent {path : Path} (hproper : path.Proper) (hfits : path.Fits) :
    path.parent.Fits where
  spelling := Nat.le_trans hproper.utf8ByteSize_parent_le hfits.spelling
  names := fun part hpart => hfits.names part (List.dropLast_subset _ hpart)

namespace FileTree

variable {tree before between after : FileTree} {location place base : Location}

/-- Removing the entries of one location leaves those of the others. -/
theorem lookup_filter_of_ne (entries : List (Location × Entry)) (hne : location ≠ place) :
    (entries.filter (·.1 ≠ place)).lookup location = entries.lookup location := by
  induction entries with
  | nil => rfl
  | cons entry entries ih =>
    obtain ⟨other, found⟩ := entry
    by_cases hother : other = place
    · have hfound : (location == other) = false := beq_eq_false_iff_ne.mpr (hother ▸ hne)
      rw [List.filter_cons_of_neg (by simpa using hother), ih, List.lookup_cons, hfound]
    · rw [List.filter_cons_of_pos (by simpa using hother), List.lookup_cons, List.lookup_cons, ih]

/-- An entry is found where it was put, and elsewhere what was there before. -/
theorem entryAt?_put (tree : FileTree) (hplace : place ≠ []) (entry : Entry) :
    (tree.put place entry).entryAt? location =
      if location = place then some entry else tree.entryAt? location := by
  unfold entryAt? put
  by_cases heq : location = place
  · have hempty : ¬ location.isEmpty = true := by simpa [heq] using hplace
    rw [if_neg hempty, if_pos heq, heq, List.lookup_cons, beq_self_eq_true]
  · rw [if_neg heq, List.lookup_cons, beq_eq_false_iff_ne.mpr heq, lookup_filter_of_ne _ heq]

/-- The root is a directory, so a place that is none is not the root. -/
theorem ne_nil_of_entryAt?_ne (hplace : tree.entryAt? place ≠ some .directory) : place ≠ [] := by
  rintro rfl
  exact hplace rfl

theorem ne_nil_of_entryAt?_eq_none (hplace : tree.entryAt? place = none) : place ≠ [] :=
  ne_nil_of_entryAt?_ne (by rw [hplace]; exact nofun)

/-! ## Following parts -/

/-- The places that are passed on the way along parts: those that a further part starts from. -/
inductive OnWay : Location → List String → Location → Prop
  | here {base : Location} {part : String} {parts : List String} : OnWay base (part :: parts) base
  | later {base place : Location} {part : String} {parts : List String} :
      OnWay (follow base part) parts place → OnWay base (part :: parts) place

/-- With one more part behind, the place that was reached is passed as well. -/
theorem onWay_concat_iff {parts : List String} {last : String} :
    OnWay base (parts ++ [last]) place ↔
      OnWay base parts place ∨ place = parts.foldl follow base := by
  induction parts generalizing base with
  | nil =>
    constructor
    · intro hway
      cases hway with
      | here => exact .inr rfl
      | later hlater => cases hlater
    · rintro (hway | rfl)
      · cases hway
      · exact .here
  | cons part parts ih =>
    constructor
    · intro hway
      cases hway with
      | here => exact .inl .here
      | later hlater =>
        rcases ih.mp hlater with hway | hplace
        · exact .inl (.later hway)
        · exact .inr hplace
    · rintro (hway | hplace)
      · cases hway with
        | here => exact .here
        | later hlater => exact .later (ih.mpr (.inl hlater))
      · exact .later (ih.mpr (.inr hplace))

/-- Following parts comes to an end exactly if every place on the way is a directory and no name is
too long. -/
theorem walk_eq_ok_iff {parts : List String} :
    tree.walk base parts = .ok location ↔
      location = parts.foldl follow base ∧
        (∀ part ∈ parts, part.utf8ByteSize ≤ nameLimit) ∧
        ∀ place, OnWay base parts place → tree.entryAt? place = some .directory := by
  induction parts generalizing base with
  | nil =>
    constructor
    · intro hwalk
      obtain rfl : base = location := Except.ok.inj hwalk
      refine ⟨rfl, fun _ hpart => (List.not_mem_nil hpart).elim, ?_⟩
      intro place hway
      cases hway
    · rintro ⟨rfl, _⟩
      rfl
  | cons part parts ih =>
    constructor
    · intro hwalk
      unfold walk at hwalk
      split at hwalk
      · cases hwalk
      · cases hwalk
      · rename_i hbase
        split at hwalk
        · cases hwalk
        · rename_i hshort
          obtain ⟨hlocation, hnames, hways⟩ := ih.mp hwalk
          refine ⟨hlocation, List.forall_mem_cons.mpr ⟨Nat.le_of_not_lt hshort, hnames⟩, ?_⟩
          intro place hway
          cases hway with
          | here => exact hbase
          | later hlater => exact hways place hlater
    · rintro ⟨hlocation, hnames, hways⟩
      obtain ⟨hname, hnames⟩ := List.forall_mem_cons.mp hnames
      unfold walk
      rw [hways base .here]
      show (if nameLimit < part.utf8ByteSize then _ else _) = _
      rw [if_neg (Nat.not_lt.mpr hname)]
      exact ih.mpr ⟨hlocation, hnames, fun place hlater => hways place (.later hlater)⟩

/-- Where no name is too long and no file is on the way, only a missing place can stop it. -/
theorem walk_eq_ok_or_missing {parts : List String}
    (hnames : ∀ part ∈ parts, part.utf8ByteSize ≤ nameLimit)
    (hfiles : ∀ place, OnWay base parts place → ∀ bytes, tree.entryAt? place ≠ some (.file bytes)) :
    tree.walk base parts = .ok (parts.foldl follow base) ∨
      tree.walk base parts = .error .missing := by
  induction parts generalizing base with
  | nil => exact .inl rfl
  | cons part parts ih =>
    obtain ⟨hname, hnames⟩ := List.forall_mem_cons.mp hnames
    unfold walk
    cases hentry : tree.entryAt? base with
    | none => exact .inr rfl
    | some entry =>
      cases entry with
      | file bytes => exact (hfiles base .here bytes hentry).elim
      | directory =>
        show (if _ then _ else _) = _ ∨ (if _ then _ else _) = _
        rw [if_neg (Nat.not_lt.mpr hname)]
        exact ih hnames fun place hlater => hfiles place (.later hlater)

/-- A part that stays where it is can be left out. -/
theorem walk_cons_of_stays (hbase : tree.entryAt? base = some .directory) {part : String}
    (hpart : part = "" ∨ part = ".") (parts : List String) :
    tree.walk base (part :: parts) = tree.walk base parts := by
  have hfollow : follow base part = base := by
    rcases hpart with rfl | rfl <;> rfl
  have hsize : ¬ nameLimit < part.utf8ByteSize := by
    rcases hpart with rfl | rfl <;> decide
  rw [walk, hbase]
  show (if _ then _ else _) = _
  rw [if_neg hsize, hfollow]

/-! ## Where a path leads -/

/-- The place that a path starts from. -/
def startOf (tree : FileTree) (path : Path) : Location :=
  if path.root.isEmpty then tree.current else []

/-- The place that a path leads to. -/
def placeOf (tree : FileTree) (path : Path) : Location :=
  path.parts.foldl follow (tree.startOf path)

/-- The places that are passed on the way to what a path leads to. -/
def Passes (tree : FileTree) (path : Path) (place : Location) : Prop :=
  OnWay (tree.startOf path) path.parts place

/-- Neither the slashes in front of a path nor a dot in place of all parts is an obstacle. -/
theorem walk_spelledParts {path : Path} (hproper : path.Proper)
    (hstart : tree.entryAt? (tree.startOf path) = some .directory) :
    tree.walk (tree.startOf path) (Path.spelledParts path.toString) =
      tree.walk (tree.startOf path) path.parts := by
  have hempty := walk_cons_of_stays hstart (.inl rfl)
  have hdot := walk_cons_of_stays hstart (.inr rfl)
  by_cases hparts : path.parts = []
  · have hspelled : Path.spelledParts path.toString = ["."] ∨
        Path.spelledParts path.toString = ["", ""] ∨
        Path.spelledParts path.toString = ["", "", ""] := by
      unfold Path.toString
      rcases hproper.root with hroot | hroot | hroot
      · rw [hroot, hparts]
        exact .inl rfl
      · rw [hroot, hparts]
        exact .inr (.inl rfl)
      · rw [hroot, hparts]
        exact .inr (.inr rfl)
    rw [hparts]
    rcases hspelled with hspelled | hspelled | hspelled
    · rw [hspelled, hdot]
    · rw [hspelled, hempty, hempty]
    · rw [hspelled, hempty, hempty, hempty]
  · rw [hproper.spelledParts_toString hparts]
    rcases hproper.root with hroot | hroot | hroot
    · rw [hroot]
      rfl
    · rw [hroot]
      exact hempty _
    · rw [hroot]
      exact (hempty _).trans (hempty _)

/-- A spelling that is not too long is followed from where its path starts. -/
theorem locate_toString {path : Path} (hproper : path.Proper)
    (hsize : path.toString.utf8ByteSize ≤ spellingLimit) :
    tree.locate path.toString =
      tree.walk (tree.startOf path) (Path.spelledParts path.toString) := by
  unfold locate startOf
  rw [if_neg (mt String.isEmpty_iff.mp hproper.toString_ne_empty), if_neg (Nat.not_lt.mpr hsize),
    hproper.rootOf_toString]

/-- A path leads to a place exactly if nothing of it is too long and every place on the way, the one
that it starts from included, is a directory. -/
theorem locate_toString_eq_ok_iff {path : Path} (hproper : path.Proper) :
    tree.locate path.toString = .ok location ↔
      location = tree.placeOf path ∧ path.Fits ∧
        tree.entryAt? (tree.startOf path) = some .directory ∧
        ∀ place, tree.Passes path place → tree.entryAt? place = some .directory := by
  by_cases hsize : path.toString.utf8ByteSize ≤ spellingLimit
  · rw [locate_toString hproper hsize]
    constructor
    · intro hwalk
      have hspelled : Path.spelledParts path.toString ≠ [] := by
        unfold Path.spelledParts
        simpa using Text.pieces_ne_nil '/' path.toString.toList
      obtain ⟨first, rest, hfirst⟩ := List.exists_cons_of_ne_nil hspelled
      have hstart := (walk_eq_ok_iff.mp hwalk).2.2 _ (hfirst ▸ OnWay.here)
      rw [walk_spelledParts hproper hstart] at hwalk
      obtain ⟨hlocation, hnames, hways⟩ := walk_eq_ok_iff.mp hwalk
      exact ⟨hlocation, ⟨hsize, hnames⟩, hstart, hways⟩
    · rintro ⟨hlocation, hfits, hstart, hways⟩
      rw [walk_spelledParts hproper hstart]
      exact walk_eq_ok_iff.mpr ⟨hlocation, hfits.names, hways⟩
  · have hlocate : tree.locate path.toString = .error .nameTooLong := by
      unfold locate
      rw [if_neg (mt String.isEmpty_iff.mp hproper.toString_ne_empty),
        if_pos (Nat.lt_of_not_le hsize)]
    rw [hlocate]
    constructor
    · intro herror
      cases herror
    · rintro ⟨_, hfits, _⟩
      exact (hsize hfits.spelling).elim

/-- Where nothing is too long, the start is a directory and no file is on the way, only a missing
directory can be in the way. -/
theorem locate_toString_eq_ok_or_missing {path : Path} (hproper : path.Proper) (hfits : path.Fits)
    (hstart : tree.entryAt? (tree.startOf path) = some .directory)
    (hfiles : ∀ place, tree.Passes path place → ∀ bytes,
      tree.entryAt? place ≠ some (.file bytes)) :
    tree.locate path.toString = .ok (tree.placeOf path) ∨
      tree.locate path.toString = .error .missing := by
  rw [locate_toString hproper hfits.spelling, walk_spelledParts hproper hstart]
  exact walk_eq_ok_or_missing hfits.names hfiles

end FileTree

end EnumBindings
