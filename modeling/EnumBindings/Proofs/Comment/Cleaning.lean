import EnumBindings.Comment.Cleaning
import EnumBindings.Proofs.Text.Visible

/-!
# Line breaks in cleaned comments

A comment is cut at line breaks of every kind and put together again with line feeds. No other line
break is left in a cleaned comment.
-/

namespace EnumBindings.Comment

/-- A text without line breaks of any kind. -/
def SingleLine (text : List Char) : Prop :=
  ∀ c ∈ text, Text.isLineBreak c = false

instance (text : List Char) : Decidable (SingleLine text) :=
  List.decidableBAll (fun c => Text.isLineBreak c = false) text

namespace SingleLine

variable {text part : List Char}

theorem of_subset (htext : SingleLine text) (hpart : part ⊆ text) : SingleLine part :=
  fun c hc => htext c (hpart hc)

theorem append {left right : List Char} (hleft : SingleLine left) (hright : SingleLine right) :
    SingleLine (left ++ right) :=
  List.forall_mem_append.mpr ⟨hleft, hright⟩

end SingleLine

/-- The lines of a text have no line breaks. -/
theorem singleLine_of_mem_lines {text line : List Char} (hline : line ∈ Text.lines text) :
    SingleLine line := by
  fun_induction Text.lines text generalizing line with
  | case1 => cases hline
  | case2 text ih =>
    rcases List.mem_cons.mp hline with rfl | hline
    · simp [SingleLine]
    · exact ih hline
  | case3 c text _ hc ih =>
    rcases List.mem_cons.mp hline with rfl | hline
    · simp [SingleLine]
    · exact ih hline
  | case4 c text _ hc hlines ih =>
    rw [List.mem_singleton.mp hline]
    simpa [SingleLine] using hc
  | case5 c text _ hc first rest hlines ih =>
    rw [hlines] at ih
    rcases List.mem_cons.mp hline with rfl | hline
    · have hfirst := ih List.mem_cons_self
      exact List.forall_mem_cons.mpr ⟨by simpa using hc, hfirst⟩
    · exact ih (List.mem_cons_of_mem _ hline)

/-- Taking the common margin off lines adds nothing to them. -/
theorem exists_suffix_of_mem_dedent {lines : List (List Char)} {line : List Char}
    (hline : line ∈ Text.dedent lines) : ∃ whole ∈ lines, line <:+ whole := by
  obtain ⟨whole, hwhole, rfl⟩ := List.mem_map.mp hline
  refine ⟨whole, hwhole, ?_⟩
  split
  · exact List.suffix_rfl
  · exact List.drop_suffix _ _

/-- Empty lines at the ends are dropped, and no line is added. -/
theorem withoutEmptyEnds_infix_self (lines : List (List Char)) :
    withoutEmptyEnds lines <:+: lines := by
  have hend : withoutEmptyEnds lines <+: lines.dropWhile (·.isEmpty) := by
    rw [withoutEmptyEnds, ← List.reverse_suffix, List.reverse_reverse]
    exact List.dropWhile_suffix _
  exact hend.isInfix.trans (List.dropWhile_suffix _).isInfix

/-- The lines of a cleaned comment have no line breaks. -/
theorem singleLine_of_mem_cleanLines {comment line : List Char}
    (hline : line ∈ cleanLines comment) : SingleLine line := by
  obtain ⟨whole, hwhole, hsuffix⟩ := exists_suffix_of_mem_dedent hline
  obtain ⟨raw, hraw, rfl⟩ := List.mem_map.mp ((withoutEmptyEnds_infix_self _).subset hwhole)
  have htrimmed := (singleLine_of_mem_lines hraw).of_subset (Text.trimEnd_prefix_self raw).subset
  exact htrimmed.of_subset hsuffix.subset

/-- Only spaces are added where closers are taken apart. -/
theorem mem_or_eq_of_mem_partClosers {c : Char} {text : List Char} (hc : c ∈ partClosers text) :
    c ∈ text ∨ c = ' ' := by
  fun_induction partClosers text with
  | case1 => cases hc
  | case2 text ih =>
    simp only [List.mem_cons] at hc ⊢
    rcases hc with rfl | rfl | rfl | hc
    · simp
    · simp
    · simp
    · rcases ih hc with hc | hc
      · simp [hc]
      · simp [hc]
  | case3 d text _ ih =>
    rcases List.mem_cons.mp hc with rfl | hc
    · exact Or.inl List.mem_cons_self
    · exact (ih hc).imp_left (List.mem_cons_of_mem _)

/-- What stands in joined lines stands in one of them, or is the separator. -/
theorem mem_or_eq_of_mem_intercalate {c separator : Char} {lines : List (List Char)}
    (hc : c ∈ [separator].intercalate lines) : (∃ line ∈ lines, c ∈ line) ∨ c = separator := by
  cases lines with
  | nil => cases hc
  | cons first rest =>
    rw [Text.intercalate_cons_eq_append, List.mem_append, List.mem_flatMap] at hc
    rcases hc with hc | ⟨line, hline, hc⟩
    · exact Or.inl ⟨first, List.mem_cons_self, hc⟩
    · rcases List.mem_cons.mp hc with rfl | hc
      · exact Or.inr rfl
      · exact Or.inl ⟨line, List.mem_cons_of_mem _ hline, hc⟩

/-- The line breaks of a cleaned comment are line feeds. -/
theorem eq_lineFeed_of_mem_cleanText {comment : List Char} {c : Char}
    (hc : c ∈ cleanText comment) (hbreak : Text.isLineBreak c = true) : c = '\n' := by
  rcases mem_or_eq_of_mem_partClosers hc with hc | rfl
  · have hjoined := (Text.trim_infix_self _).subset hc
    rcases mem_or_eq_of_mem_intercalate hjoined with ⟨line, hline, hmem⟩ | rfl
    · rw [singleLine_of_mem_cleanLines hline c hmem] at hbreak
      cases hbreak
    · rfl
  · exact absurd hbreak (by decide)

end EnumBindings.Comment
