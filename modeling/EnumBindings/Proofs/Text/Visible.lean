import EnumBindings.Proofs.Text.Trimming
import EnumBindings.Text.Lines
import EnumBindings.Text.Margin
import EnumBindings.Text.Pieces

/-!
# The visible part of a text

The characters of a text other than white space. Trimming a text, cutting it into lines, joining
lines and taking a margin off them change white space only, so that all visible characters are kept,
in order.
-/

namespace EnumBindings.Text

/-- The characters that are not white space. -/
def visible (text : List Char) : List Char :=
  text.filter (!isBlank ·)

@[simp] theorem visible_nil : visible [] = [] :=
  rfl

@[simp] theorem visible_append (left right : List Char) :
    visible (left ++ right) = visible left ++ visible right :=
  List.filter_append ..

theorem visible_cons (c : Char) (text : List Char) :
    visible (c :: text) = if isBlank c then visible text else c :: visible text := by
  cases hc : isBlank c <;> simp [visible, hc]

theorem visible_eq_nil_iff {text : List Char} : visible text = [] ↔ IsBlankText text := by
  simp [visible, IsBlankText]

/-- Nothing visible is trimmed. -/
@[simp] theorem visible_trim (text : List Char) : visible (trim text) = visible text := by
  obtain ⟨before, behind, hbefore, hbehind, htext⟩ := exists_eq_append_trim text
  calc visible (trim text) = visible before ++ visible (trim text) ++ visible behind := by
        simp [visible_eq_nil_iff.mpr hbefore, visible_eq_nil_iff.mpr hbehind]
    _ = visible (before ++ trim text ++ behind) := by rw [visible_append, visible_append]
    _ = visible text := by rw [← htext]

@[simp] theorem visible_trimEnd (text : List Char) : visible (trimEnd text) = visible text := by
  have hsplit : trimEnd text ++ text.rtakeWhile isBlank = text := List.rdropWhile_append_rtakeWhile
  have hdropped : IsBlankText (text.rtakeWhile isBlank) := fun _ hc => List.mem_rtakeWhile_imp hc
  calc visible (trimEnd text) = visible (trimEnd text) ++ visible (text.rtakeWhile isBlank) := by
        rw [visible_eq_nil_iff.mpr hdropped, List.append_nil]
    _ = visible text := by rw [← visible_append, hsplit]

/-- Line breaks are white space. -/
theorem isBlank_of_isLineBreak {c : Char} (hc : isLineBreak c = true) : isBlank c = true := by
  simp only [isLineBreak, isBlank, blankRanges, inRanges, Bool.and_eq_true, Bool.or_eq_true,
    decide_eq_true_eq, Bool.or_false] at hc ⊢
  omega

/-- What is visible in a text is visible in its lines. -/
theorem flatMap_visible_lines (text : List Char) :
    (lines text).flatMap visible = visible text := by
  fun_induction lines text with
  | case1 => rfl
  | case2 text ih =>
    have hreturn : isBlank '\r' = true := by decide
    have hfeed : isBlank '\n' = true := by decide
    rw [List.flatMap_cons, ih, visible_cons, visible_cons, if_pos hreturn, if_pos hfeed]
    rfl
  | case3 c text _ hc ih =>
    rw [List.flatMap_cons, ih, visible_cons, if_pos (isBlank_of_isLineBreak hc)]
    rfl
  | case4 c text _ hc hlines ih =>
    rw [hlines] at ih
    rw [visible_cons, ← ih]
    simp [visible_cons]
  | case5 c text _ hc first rest hlines ih =>
    rw [hlines, List.flatMap_cons] at ih
    rw [List.flatMap_cons, visible_cons, visible_cons, ← ih]
    split <;> rfl

/-- Only white space is put between joined lines. -/
theorem visible_intercalate {separator : Char} (hseparator : isBlank separator = true)
    (lines : List (List Char)) :
    visible ([separator].intercalate lines) = lines.flatMap visible := by
  cases lines with
  | nil => rfl
  | cons first rest =>
    have hlines : ∀ lines : List (List Char),
        visible (lines.flatMap (separator :: ·)) = lines.flatMap visible := by
      intro lines
      induction lines with
      | nil => rfl
      | cons line lines ih =>
        rw [List.flatMap_cons, visible_append, ih, visible_cons, if_pos hseparator,
          List.flatMap_cons]
    rw [intercalate_cons_eq_append, visible_append, hlines, List.flatMap_cons]

/-- Every one of two texts starts with their common start. -/
theorem commonStart_prefix_both (left right : List Char) :
    commonStart left right <+: left ∧ commonStart left right <+: right := by
  fun_induction commonStart left right with
  | case1 left b right ih =>
    exact ⟨(List.prefix_cons_inj b).mpr ih.1, (List.prefix_cons_inj b).mpr ih.2⟩
  | case2 => exact ⟨List.nil_prefix, List.nil_prefix⟩
  | case3 => exact ⟨List.nil_prefix, List.nil_prefix⟩

/-- Every line with text starts with the common margin. -/
theorem margin_prefix_leading {lines : List (List Char)} {line : List Char} (hline : line ∈ lines)
    (htext : line ≠ []) : margin lines <+: leading line := by
  have hshared : ∀ (rest : List (List Char)) (shared : List Char),
      let result := rest.foldl (fun shared line => commonStart shared (leading line)) shared
      result <+: shared ∧ ∀ line ∈ rest, result <+: leading line := by
    intro rest
    induction rest with
    | nil => exact fun shared => ⟨List.prefix_rfl, by simp⟩
    | cons first rest ih =>
      intro shared
      obtain ⟨hstart, hrest⟩ := ih (commonStart shared (leading first))
      obtain ⟨hleft, hright⟩ := commonStart_prefix_both shared (leading first)
      exact ⟨hstart.trans hleft, List.forall_mem_cons.mpr ⟨hstart.trans hright, hrest⟩⟩
  have hfilter : line ∈ lines.filter (!·.isEmpty) := by simp [hline, htext]
  unfold margin
  split
  · next hnil => rw [hnil] at hfilter; cases hfilter
  · next first rest hlines =>
    rw [hlines] at hfilter
    obtain ⟨hstart, hrest⟩ := hshared rest (leading first)
    rcases List.mem_cons.mp hfilter with rfl | hline
    · exact hstart
    · exact hrest line hline

/-- A margin is white space. -/
theorem isBlankText_leading (line : List Char) : IsBlankText (leading line) := by
  intro c hc
  have hmargin : c = ' ' ∨ c = '\t' := by simpa using List.mem_takeWhile_imp hc
  rcases hmargin with rfl | rfl <;> decide

/-- Only white space is taken off lines with their common margin. -/
theorem flatMap_visible_dedent (lines : List (List Char)) :
    (dedent lines).flatMap visible = lines.flatMap visible := by
  unfold dedent
  rw [List.flatMap_map]
  apply List.flatMap_congr
  intro line hline
  split
  · rfl
  · next htext =>
    rw [List.isEmpty_iff] at htext
    obtain ⟨rest, hrest⟩ :=
      (margin_prefix_leading hline htext).trans (List.takeWhile_prefix _)
    have hblank : IsBlankText (margin lines) := fun c hc =>
      isBlankText_leading line c ((margin_prefix_leading hline htext).subset hc)
    rw [← hrest, List.drop_left, visible_append, visible_eq_nil_iff.mpr hblank, List.nil_append]

end EnumBindings.Text
