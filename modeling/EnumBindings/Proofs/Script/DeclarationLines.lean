import EnumBindings.Proofs.Script.DeclarationReading
import EnumBindings.Proofs.Script.SwitchReading

/-!
# Declarations among functions

A function is looked for by its opening line, also in code that begins with a declaration. No
line of a declaration opens a function, whatever the names in it are: what it exports is of
another kind, which shows in the eighth character of the line.
-/

namespace EnumBindings.Script

/-- No function is opened by a line of a block comment. -/
theorem opensFunction_of_isRemark {name line : String} (hline : IsRemark line) :
    opensFunction name line = false := by
  apply opensFunction_of_unindented
  rcases hline with h | h <;> rw [h] <;> decide

/-- No function is opened by an indented line. -/
theorem opensFunction_of_mem_indent {name line : String} {level : Int} {lines : List String}
    (hlevel : 0 < level) (hline : line ∈ indent level lines) : opensFunction name line = false := by
  obtain ⟨inner, _, rfl⟩ := List.mem_map.mp hline
  apply opensFunction_eq_false_of_head?
  by_cases hempty : inner = ""
  · rw [hempty]
    simp [indentLine]
  · rw [head?_indentLine hlevel hempty]
    decide

/-- No function is opened by a line that exports something else, as the eighth character of its
start tells. -/
theorem opensFunction_of_export {name line start rest : String} {c : Char}
    (hline : line = start ++ rest) (hstart : start.toList[7]? = some c) (hc : c ≠ 'f') :
    opensFunction name line = false := by
  have heighth {text : List Char} {d : Char} (htext : text <+: line.toList)
      (hd : text[7]? = some d) : line.toList[7]? = some d := by
    obtain ⟨rest, hrest⟩ := htext
    obtain ⟨hlength, _⟩ := List.getElem?_eq_some_iff.mp hd
    rw [← hrest, List.getElem?_append_left hlength, hd]
  have hprefix : start.toList <+: line.toList := by
    rw [hline, String.toList_append]
    exact List.prefix_append _ _
  rw [opensFunction, Bool.eq_false_iff, Ne, List.isPrefixOf_iff_prefix]
  intro hopens
  have hfunction := heighth (d := 'f') hopens (by simp)
  rw [heighth hprefix hstart] at hfunction
  exact hc (Option.some.inj hfunction)

/-- No function is opened by a text that begins with the export of something else. -/
theorem opensFunction_of_export_append {name start other finish rest : String} {c : Char}
    (hstart : start.toList[7]? = some c) (hc : c ≠ 'f') :
    opensFunction name (start ++ other ++ finish ++ rest) = false := by
  rw [String.append_assoc, String.append_assoc]
  exact opensFunction_of_export rfl hstart hc

namespace Representation

/-- No function is opened by a text that begins with the opening of a scope. -/
theorem opensFunction_scopeOpening (representation : Representation) (name scope rest : String) :
    opensFunction name (representation.scopeOpening scope ++ rest) = false := by
  cases representation with
  | native erased => exact opensFunction_of_export_append rfl (by decide)
  | literal => exact opensFunction_of_export_append rfl (by decide)

/-- No function is opened by a text that begins with the opening of a declaration. -/
theorem opensFunction_declarationOpening (representation : Representation)
    (name other rest : String) :
    opensFunction name (representation.declarationOpening other ++ rest) = false := by
  match representation with
  | .native true => exact opensFunction_of_export_append rfl (by decide)
  | .native false => exact opensFunction_of_export_append rfl (by decide)
  | .literal => exact opensFunction_of_export_append rfl (by decide)

/-- No function is opened where a declaration is closed. -/
theorem opensFunction_closing {representation : Representation} {name other : String}
    {members : List String} {line : String} (hline : line ∈ representation.closing other members) :
    opensFunction name line = false := by
  cases representation with
  | native erased =>
    rw [closing, List.mem_singleton] at hline
    rw [hline]
    exact opensFunction_eq_false_of_head? (by decide)
  | literal =>
    rw [closing, List.mem_append, List.mem_append, List.mem_singleton] at hline
    rcases hline with (hline | hline) | rfl
    · simp only [List.mem_cons, List.not_mem_nil, or_false] at hline
      rcases hline with rfl | rfl | rfl | rfl | rfl
      · exact opensFunction_eq_false_of_head? (by decide)
      · exact opensFunction_eq_false_of_head? (by decide)
      · simp only [String.append_assoc]
        exact opensFunction_of_export rfl rfl (by decide)
      · exact opensFunction_eq_false_of_head? (by decide)
      · exact opensFunction_of_export (String.append_assoc ..) rfl (by decide)
    · exact opensFunction_of_mem_indent (by decide) hline
    · exact opensFunction_eq_false_of_head? (by decide)

end Representation

namespace Declaration

/-- No function is opened within the lines of a declaration. -/
theorem opensFunction_of_mem_innerLines {declaration : Declaration} {name line : String}
    (hline : line ∈ declaration.innerLines) : opensFunction name line = false := by
  rw [innerLines, List.cons_append, List.mem_cons, List.mem_append] at hline
  rcases hline with rfl | hline | hline
  · simpa using Representation.opensFunction_declarationOpening _ _ _ ""
  · exact opensFunction_of_mem_indent (by decide) hline
  · exact Representation.opensFunction_closing hline

/-- No function is opened by a declaration. -/
theorem opensFunction_of_mem_lines {declaration : Declaration} {name line : String}
    (hcomment : ∀ line ∈ declaration.comment, IsRemark line) (hline : line ∈ declaration.lines) :
    opensFunction name line = false := by
  rcases List.mem_append.mp hline with hline | hline
  · exact opensFunction_of_isRemark (hcomment line hline)
  · cases hscope : declaration.scope with
    | none =>
      rw [hscope] at hline
      exact opensFunction_of_mem_innerLines hline
    | some scope =>
      rw [hscope] at hline
      simp only [List.cons_append, List.mem_cons, List.mem_append, List.not_mem_nil,
        or_false] at hline
      rcases hline with rfl | hline | rfl
      · simpa using Representation.opensFunction_scopeOpening _ _ _ ""
      · exact opensFunction_of_mem_indent (by decide) hline
      · exact opensFunction_eq_false_of_head? (by decide)

end Declaration

end EnumBindings.Script
