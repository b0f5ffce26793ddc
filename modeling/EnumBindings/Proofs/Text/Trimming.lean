import EnumBindings.Text.Blank
import Mathlib.Data.List.DropRight

/-!
# Trimmed texts

A text is its trimmed form with white space around it, and white space around a text does not change
its trimmed form.
-/

namespace EnumBindings.Text

theorem trimEnd_eq_nil_iff {text : List Char} :
    trimEnd text = [] ↔ ∀ c ∈ text, isBlank c = true := by
  rw [trimEnd, List.reverse_eq_nil_iff, List.dropWhile_eq_nil_iff]
  simp only [List.mem_reverse]

/-- Nothing is left exactly of blank text. -/
theorem trim_eq_nil_iff {text : List Char} : trim text = [] ↔ ∀ c ∈ text, isBlank c = true := by
  rw [trim, trimEnd_eq_nil_iff, trimStart, ← List.dropWhile_eq_nil_iff, List.dropWhile_idempotent,
    List.dropWhile_eq_nil_iff]

/-- Text that is white space throughout. -/
def IsBlankText (text : List Char) : Prop :=
  ∀ c ∈ text, isBlank c = true

/-- A visible character does not occur in white space. -/
theorem IsBlankText.notMem {text : List Char} {c : Char} (htext : IsBlankText text)
    (hc : isBlank c = false) : c ∉ text := fun hmem =>
  absurd (htext c hmem) (by simp [hc])

/-- White space is only taken off the end. -/
theorem trimEnd_prefix_self (text : List Char) : trimEnd text <+: text := by
  rw [trimEnd, ← List.reverse_suffix, List.reverse_reverse]
  exact List.dropWhile_suffix _

/-- White space is only taken off the ends. -/
theorem trim_infix_self (text : List Char) : trim text <:+: text :=
  (trimEnd_prefix_self _).isInfix.trans (List.dropWhile_suffix _).isInfix

/-- White space is dropped behind the last visible character only. -/
theorem trimEnd_append_cons {c : Char} (hc : isBlank c = false) (before behind : List Char) :
    trimEnd (before ++ c :: behind) = before ++ c :: trimEnd behind := by
  have hstop : (c :: before.reverse).dropWhile isBlank = c :: before.reverse :=
    List.dropWhile_cons_of_neg (by simp [hc])
  have hreverse : (before ++ c :: behind).reverse = behind.reverse ++ c :: before.reverse := by
    simp
  rw [trimEnd, trimEnd, hreverse, List.dropWhile_append, hstop]
  split
  · next hempty =>
    rw [List.isEmpty_iff] at hempty
    simp [hempty]
  · simp

/-- White space behind a text is dropped with what the text ends in. -/
theorem trimEnd_append_of_blank {behind : List Char} (hbehind : IsBlankText behind)
    (text : List Char) : trimEnd (text ++ behind) = trimEnd text := by
  have hreverse : ∀ c ∈ behind.reverse, isBlank c = true := fun c hc =>
    hbehind c (List.mem_reverse.mp hc)
  rw [trimEnd, trimEnd, List.reverse_append, List.dropWhile_append_of_pos hreverse]

/-- White space around a text is dropped. -/
theorem trim_append_of_blank {before behind : List Char} (hbefore : IsBlankText before)
    (hbehind : IsBlankText behind) (text : List Char) :
    trim (before ++ text ++ behind) = trim text := by
  rw [trim, trim, trimStart, trimStart, List.append_assoc, List.dropWhile_append_of_pos hbefore,
    List.dropWhile_append]
  split
  · next hempty =>
    rw [List.isEmpty_iff] at hempty
    have hdropped : IsBlankText (behind.dropWhile isBlank) := fun c hc =>
      hbehind c ((List.dropWhile_suffix _).subset hc)
    rw [hempty, trimEnd_eq_nil_iff.mpr hdropped]
    rfl
  · exact trimEnd_append_of_blank hbehind _

theorem trim_append_left {before : List Char} (hbefore : IsBlankText before) (text : List Char) :
    trim (before ++ text) = trim text := by
  simpa using trim_append_of_blank hbefore (show IsBlankText [] by simp [IsBlankText]) text

theorem trim_append_right {behind : List Char} (hbehind : IsBlankText behind) (text : List Char) :
    trim (text ++ behind) = trim text := by
  simpa using trim_append_of_blank (show IsBlankText [] by simp [IsBlankText]) hbehind text

/-- Dropping elements from both ends of a list leaves a part of it, around which they stood. -/
theorem exists_eq_append_dropEnds {α : Type} (drops : α → Bool) (list : List α) :
    ∃ before behind, (∀ x ∈ before, drops x = true) ∧ (∀ x ∈ behind, drops x = true) ∧
      list = before ++ (list.dropWhile drops).rdropWhile drops ++ behind := by
  refine ⟨list.takeWhile drops, (list.dropWhile drops).rtakeWhile drops,
    fun _ hx => List.mem_takeWhile_imp hx, fun _ hx => List.mem_rtakeWhile_imp hx, ?_⟩
  rw [List.append_assoc, List.rdropWhile_append_rtakeWhile, List.takeWhile_append_dropWhile]

/-- A text is its trimmed form with white space around it. -/
theorem exists_eq_append_trim (text : List Char) :
    ∃ before behind, IsBlankText before ∧ IsBlankText behind ∧
      text = before ++ trim text ++ behind :=
  exists_eq_append_dropEnds isBlank text

/-- Nothing is dropped from a text without white space. -/
theorem trim_eq_self {text : List Char} (htext : ∀ c ∈ text, isBlank c = false) :
    trim text = text := by
  have hstart (list : List Char) (hlist : ∀ c ∈ list, isBlank c = false) :
      list.dropWhile isBlank = list := by
    cases list with
    | nil => rfl
    | cons c list => exact List.dropWhile_cons_of_neg (by simp [hlist c])
  rw [trim, trimStart, hstart text htext, trimEnd,
    hstart text.reverse fun c hc => htext c (List.mem_reverse.mp hc), List.reverse_reverse]

end EnumBindings.Text
