import EnumBindings.Script.Lines
import Mathlib.Data.List.Basic

/-!
# Reading lines of generated code

Lines are read without their indentation, which carries no meaning. What a line holds stands
between a fixed start and a fixed end.
-/

namespace EnumBindings.Script

/-- A line without its indentation. -/
def unindented (line : String) : List Char :=
  line.toList.dropWhile (· == ' ')

/-- What stands in a text between a given start and a given end. -/
def within? (start finish text : List Char) : Option (List Char) :=
  (text.dropPrefix? start).bind (·.dropSuffix? finish)

/-- Indentation consists of spaces. -/
theorem eq_space_of_mem_indentation {level : Int} {c : Char}
    (hc : c ∈ (indentation level).toList) : c = ' ' := by
  rw [indentation, String.toList_join, List.mem_flatMap] at hc
  obtain ⟨unit, hunit, hc⟩ := hc
  rw [List.eq_of_mem_replicate hunit] at hc
  simpa [indentUnit] using hc

/-- An indented line begins with a space unless it is empty. -/
theorem head?_indentLine {level : Int} {line : String} (hlevel : 0 < level) (hline : line ≠ "") :
    (indentLine level line).toList.head? = some ' ' := by
  obtain ⟨count, hcount⟩ : ∃ count, level.toNat = count + 1 := ⟨level.toNat - 1, by omega⟩
  have hempty : ¬line.isEmpty = true := by simpa using hline
  rw [indentLine, if_neg hempty, indentation, hcount, List.replicate_succ, String.join_cons,
    String.toList_append, String.toList_append, List.append_assoc, List.head?_append]
  rfl

/-- Indenting a line does not change how it is read. -/
@[simp] theorem unindented_indentLine (level : Int) (line : String) :
    unindented (indentLine level line) = unindented line := by
  unfold indentLine unindented
  split
  · rfl
  · rw [String.toList_append]
    exact List.dropWhile_append_of_pos fun c hc =>
      beq_iff_eq.mpr (eq_space_of_mem_indentation hc)

/-- Indenting lines does not change how they are read. -/
@[simp] theorem map_unindented_indent (level : Int) (lines : List String) :
    (indent level lines).map unindented = lines.map unindented := by
  simp [indent]

/-- A line that begins with text is read as it is. -/
theorem unindented_of_head? {line : String} (hline : line.toList.head? ≠ some ' ') :
    unindented line = line.toList :=
  List.dropWhile_beq_eq_self_of_head?_ne hline

/-- What was put between a start and an end is found there. -/
theorem within?_append (start finish inner : List Char) :
    within? start finish (start ++ inner ++ finish) = some inner := by
  have hprefix : (start ++ inner ++ finish).dropPrefix? start = some (inner ++ finish) := by
    rw [List.append_assoc]
    exact List.dropPrefix?_append_of_beq _ BEq.rfl
  rw [within?, hprefix]
  exact List.dropSuffix?_eq_some_iff.mpr ⟨finish, rfl, BEq.rfl⟩

/-- Nothing is found in a text that begins with another character than the start. -/
theorem within?_eq_none_of_head? {start finish text : List Char} {c : Char}
    (hstart : start.head? = some c) (htext : text.head? ≠ some c) :
    within? start finish text = none := by
  cases hprefix : text.dropPrefix? start with
  | none => rw [within?, hprefix]; rfl
  | some rest =>
    obtain ⟨found, rfl, hfound⟩ := List.dropPrefix?_eq_some_iff.mp hprefix
    rw [eq_of_beq hfound, List.head?_append, hstart] at htext
    exact absurd rfl htext

end EnumBindings.Script
