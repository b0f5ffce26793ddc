import EnumBindings.Command.Path

/-!
# Spellings of paths

The spelling of a path is cut into the parts of the path again, behind what its slashes in front
leave; and it is no shorter than that of the path above it.
-/

namespace EnumBindings.Path

/-- A path as it comes from a spelling: its slashes in front are none, one or two, and none of its
parts is empty, a dot or has a slash in it. -/
structure Proper (path : Path) : Prop where
  root : path.root = "" ∨ path.root = "/" ∨ path.root = "//"
  parts : ∀ part ∈ path.parts, part ≠ "" ∧ part ≠ "." ∧ '/' ∉ part.toList

theorem rootOf_eq (spelling : List Char) :
    rootOf spelling = "" ∨ rootOf spelling = "/" ∨ rootOf spelling = "//" := by
  unfold rootOf
  split
  · exact .inr (.inl rfl)
  · exact .inr (.inr rfl)
  · exact .inr (.inl rfl)
  · exact .inl rfl

/-- The path of a spelling is one that comes from a spelling. -/
theorem proper_ofString (spelling : String) : (ofString spelling).Proper where
  root := rootOf_eq spelling.toList
  parts := by
    intro part hpart
    obtain ⟨hspelled, hkept⟩ := List.mem_filter.mp hpart
    obtain ⟨piece, hpiece, rfl⟩ := List.mem_map.mp hspelled
    simp only [Bool.not_eq_true', Bool.or_eq_false_iff, String.isEmpty_eq_false_iff,
      decide_eq_false_iff_not] at hkept
    refine ⟨hkept.1, hkept.2, ?_⟩
    rw [String.toList_ofList]
    exact Text.notMem_of_mem_pieces hpiece

/-- The slashes in front of a text are found if no other slash follows them. -/
theorem rootOf_append {root : String} (hroot : root = "" ∨ root = "/" ∨ root = "//")
    {text : List Char} (htext : text.head? ≠ some '/') : rootOf (root.toList ++ text) = root := by
  cases text with
  | nil => rcases hroot with rfl | rfl | rfl <;> rfl
  | cons c text =>
    have hc : c ≠ '/' := fun heq => htext (heq ▸ rfl)
    rcases hroot with rfl | rfl | rfl
    · show rootOf (c :: text) = ""
      simp [rootOf, hc]
    · show rootOf ('/' :: c :: text) = "/"
      simp [rootOf, hc]
    · show rootOf ('/' :: '/' :: c :: text) = "//"
      simp [rootOf, hc]

/-- A joined text gets no shorter by a further part. -/
theorem utf8ByteSize_intercalate_le (parts : List String) (last : String) :
    ("/".intercalate parts).utf8ByteSize ≤ ("/".intercalate (parts ++ [last])).utf8ByteSize := by
  induction parts with
  | nil => exact Nat.zero_le _
  | cons first rest ih =>
    cases rest with
    | nil =>
      rw [List.singleton_append, String.intercalate_cons_cons, String.intercalate_singleton,
        String.append_assoc, String.utf8ByteSize_append]
      omega
    | cons second rest =>
      rw [List.cons_append, List.cons_append, String.intercalate_cons_cons,
        String.intercalate_cons_cons]
      simp only [String.utf8ByteSize_append]
      exact Nat.add_le_add_left ih _

variable {path : Path}

/-- A path without parts is its own parent. -/
theorem parent_eq_self (hparts : path.parts = []) : path.parent = path := by
  cases path
  cases hparts
  rfl

namespace Proper

variable (hproper : path.Proper)

include hproper

/-- So is the path one part shorter. -/
theorem parent : path.parent.Proper :=
  ⟨hproper.root, fun part hpart => hproper.parts part (List.dropLast_subset _ hpart)⟩

/-- The parts of a path, joined by slashes, do not begin with a slash. -/
theorem head?_intercalate :
    (['/'].intercalate (path.parts.map String.toList)).head? ≠ some '/' := by
  cases hparts : path.parts with
  | nil => simp
  | cons first rest =>
    obtain ⟨hne, _, hslash⟩ := hproper.parts first (hparts ▸ List.mem_cons_self)
    obtain ⟨c, letters, hletters⟩ := List.exists_cons_of_ne_nil (mt String.toList_eq_nil_iff.mp hne)
    rw [List.map_cons, Text.intercalate_cons_eq_append, hletters, List.cons_append,
      List.head?_cons, Ne, Option.some.injEq]
    rintro rfl
    exact hslash (hletters ▸ List.mem_cons_self)

/-- The parts of a path, joined by slashes, are cut apart again. -/
theorem pieces_intercalate (hparts : path.parts ≠ []) :
    Text.pieces '/' (['/'].intercalate (path.parts.map String.toList)) =
      path.parts.map String.toList := by
  refine Text.pieces_intercalate (by simpa using hparts) ?_
  intro text htext
  obtain ⟨part, hpart, rfl⟩ := List.mem_map.mp htext
  exact (hproper.parts part hpart).2.2

/-- The slashes in front of the spelling of a path are those of the path. -/
theorem rootOf_toString : rootOf path.toString.toList = path.root := by
  unfold toString
  split
  · rename_i hempty
    have hroot := String.isEmpty_iff.mp (Bool.and_eq_true_iff.mp hempty).1
    rw [hroot]
    rfl
  · rw [String.toList_append, String.toList_intercalate]
    exact rootOf_append hproper.root hproper.head?_intercalate

/-- The spelling of a path is cut into its parts, with an empty part for each slash in front. -/
theorem spelledParts_toString (hparts : path.parts ≠ []) :
    spelledParts path.toString = path.root.toList.map (fun _ => "") ++ path.parts := by
  have hspelling : path.toString.toList =
      path.root.toList ++ ['/'].intercalate (path.parts.map String.toList) := by
    unfold toString
    rw [if_neg (by simp [hparts]), String.toList_append, String.toList_intercalate]
    rfl
  have hback : (path.parts.map String.toList).map String.ofList = path.parts := by
    rw [List.map_map]
    exact List.map_id'' (fun part => String.ofList_toList) path.parts
  unfold spelledParts
  rw [hspelling]
  rcases hproper.root with hroot | hroot | hroot
  · rw [hroot]
    show (Text.pieces '/' (['/'].intercalate (path.parts.map String.toList))).map _ = _
    rw [hproper.pieces_intercalate hparts, hback]
    rfl
  · rw [hroot]
    show ([] :: Text.pieces '/' (['/'].intercalate (path.parts.map String.toList))).map _ = _
    rw [List.map_cons, hproper.pieces_intercalate hparts, hback]
    rfl
  · rw [hroot]
    show ([] :: [] :: Text.pieces '/' (['/'].intercalate (path.parts.map String.toList))).map _ = _
    rw [List.map_cons, List.map_cons, hproper.pieces_intercalate hparts, hback]
    rfl

/-- No spelling of a path is empty. -/
theorem toString_ne_empty : path.toString ≠ "" := by
  intro hempty
  have hroot := hproper.rootOf_toString
  rw [hempty] at hroot
  by_cases hparts : path.parts = []
  · rw [toString, ← hroot, hparts] at hempty
    exact absurd hempty (by decide)
  · have hspelled := hproper.spelledParts_toString hparts
    rw [hempty, ← hroot] at hspelled
    have hpart : "" ∈ path.parts := by
      rw [show path.parts = [""] from hspelled.symm]
      exact List.mem_singleton_self ""
    exact (hproper.parts "" hpart).1 rfl

/-- The spelling of a path is no shorter than that of the path above it. -/
theorem utf8ByteSize_parent_le :
    path.parent.toString.utf8ByteSize ≤ path.toString.utf8ByteSize := by
  by_cases hparts : path.parts = []
  · exact Nat.le_of_eq (by rw [parent_eq_self hparts])
  · have hsize : path.toString.utf8ByteSize =
        path.root.utf8ByteSize + ("/".intercalate path.parts).utf8ByteSize := by
      rw [toString, if_neg (by simp [hparts]), String.utf8ByteSize_append]
    have hlonger := utf8ByteSize_intercalate_le path.parent.parts (path.parts.getLast hparts)
    have hconcat : path.parent.parts ++ [path.parts.getLast hparts] = path.parts :=
      List.dropLast_concat_getLast hparts
    rw [hconcat] at hlonger
    by_cases hempty : path.parent.root.isEmpty && path.parent.parts.isEmpty
    · have hpositive : path.toString.utf8ByteSize ≠ 0 :=
        mt String.utf8ByteSize_eq_zero_iff.mp hproper.toString_ne_empty
      rw [toString, if_pos hempty]
      show 1 ≤ _
      omega
    · rw [toString, if_neg hempty, String.utf8ByteSize_append, hsize]
      exact Nat.add_le_add_left hlonger _

end Proper

end EnumBindings.Path
