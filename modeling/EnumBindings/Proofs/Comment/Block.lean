import EnumBindings.Comment.Block
import EnumBindings.Proofs.Script.DeclarationReading
import EnumBindings.Proofs.Text.Trimming

/-!
# Documentation blocks among code

Whatever a comment says, each line of its block begins with a comment mark or a star. A block
is therefore never taken for code.
-/

namespace EnumBindings.Comment

open Script

/-- What a block says is made of the lines of the cleaned comment. -/
theorem mem_content {comment : Option String} {deprecated : Bool} {lead line : String}
    (hline : line ∈ content comment deprecated lead) :
    line = "@deprecated" ∨ ∃ piece ∈ Text.pieces '\n' (clean comment).toList,
      line = lead ++ String.ofList piece ∨ line = String.ofList piece := by
  rcases List.mem_append.mp hline with hline | hline
  · right
    split at hline
    · cases hline
    · split at hline
      · cases hline
      · next first rest hpieces =>
        rw [hpieces]
        rcases List.mem_cons.mp hline with rfl | hline
        · exact ⟨first, List.mem_cons_self, Or.inl rfl⟩
        · obtain ⟨piece, hpiece, rfl⟩ := List.mem_map.mp hline
          exact ⟨piece, List.mem_cons_of_mem _ hpiece, Or.inr rfl⟩
  · left
    split at hline
    · exact List.mem_singleton.mp hline
    · cases hline

/-- Several lines are put between two lines with comment marks. -/
theorem enclose_cons_cons (first second : String) (rest : List String) :
    enclose (first :: second :: rest) =
      "/**" :: (first :: second :: rest).map starred ++ [" */"] :=
  rfl

/-- The lines of a block are its comment marks and what it says. -/
theorem mem_block {comment : Option String} {deprecated : Bool} {lead line : String}
    (hline : line ∈ block comment deprecated lead) :
    line = "/**" ∨ line = " */" ∨ ∃ said ∈ content comment deprecated lead,
      line = "/** " ++ said ++ " */" ∨ line = starred said := by
  unfold block at hline
  generalize content comment deprecated lead = contents at hline
  cases contents with
  | nil => cases hline
  | cons first rest =>
    cases rest with
    | nil => exact Or.inr (Or.inr ⟨first, List.mem_cons_self, Or.inl (List.mem_singleton.mp hline)⟩)
    | cons second rest =>
      rw [enclose_cons_cons, List.cons_append, List.mem_cons, List.mem_append,
        List.mem_singleton] at hline
      rcases hline with rfl | hline | rfl
      · exact Or.inl rfl
      · obtain ⟨said, hsaid, rfl⟩ := List.mem_map.mp hline
        exact Or.inr (Or.inr ⟨said, hsaid, Or.inr rfl⟩)
      · exact Or.inr (Or.inl rfl)

/-- A line of a block of several lines begins with a star. -/
theorem isRemark_starred (line : String) : IsRemark (starred line) := by
  have htext : (" * " ++ line).toList = [' '] ++ '*' :: (' ' :: line.toList) := by
    rw [String.toList_append]
    rfl
  right
  rw [starred, htext, Text.trimEnd_append_cons (by decide), unindented, String.toList_ofList]
  rfl

/-- Each line of a block is a remark. -/
theorem isRemark_of_mem_block {comment : Option String} {deprecated : Bool} {lead line : String}
    (hline : line ∈ block comment deprecated lead) : IsRemark line := by
  rcases mem_block hline with rfl | rfl | ⟨said, _, rfl | rfl⟩
  · exact Or.inl rfl
  · exact Or.inr rfl
  · left
    rw [unindented_of_head? (by simp)]
    simp
  · exact isRemark_starred said

end EnumBindings.Comment
