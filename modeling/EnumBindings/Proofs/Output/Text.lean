import EnumBindings.Output.Module
import EnumBindings.Proofs.Output.Numbers

/-!
# The text that is written for an enumeration

A draft joins fragments with a blank line, and the code of a binding is the list of their lines.
Adding an enumeration with a name to an empty draft makes its text the lines of the code, so that
what is proved about the code holds of what is written.
-/

namespace EnumBindings

open Script

/-- Lines begin with the first of them. -/
theorem exists_joinLines_cons (line : String) (lines : List String) :
    ∃ rest, joinLines (line :: lines) = line ++ rest := by
  cases lines with
  | nil => exact ⟨"", by simp [joinLines]⟩
  | cons second lines =>
    exact ⟨_, by rw [joinLines, String.intercalate_cons_cons, String.append_assoc]⟩

/-- An empty line between two groups of lines is a blank line between their texts. -/
theorem joinLines_append {first second : List String} (hfirst : first ≠ [])
    (hsecond : second ≠ []) :
    joinLines (first ++ "" :: second) = joinLines first ++ "\n\n" ++ joinLines second := by
  have hempty : "\n".intercalate ("" :: second) = "\n" ++ "\n".intercalate second := by
    rw [String.intercalate_cons_of_ne_nil hsecond, String.empty_append]
  have hbreaks : "\n\n" = "\n" ++ "\n" := rfl
  unfold joinLines
  rw [String.intercalate_append_of_ne_nil hfirst (List.cons_ne_nil _ _), hempty, hbreaks]
  simp only [String.append_assoc]

/-- Texts that are joined by blank lines are the text of all their lines. -/
theorem intercalate_map_joinLines {groups : List (List String)} (hgroups : [] ∉ groups) :
    "\n\n".intercalate (groups.map joinLines) = joinLines ([""].intercalate groups) := by
  induction groups with
  | nil => rfl
  | cons first rest ih =>
    rw [List.mem_cons, not_or] at hgroups
    cases rest with
    | nil => simp
    | cons second rest =>
      have hrest : [""].intercalate (second :: rest) ≠ [] := by
        intro hnil
        have hsecond : second = [] := by
          cases rest with
          | nil => simpa using hnil
          | cons third rest => simp [List.intercalate_cons_cons] at hnil
        exact hgroups.2 (by rw [hsecond]; exact List.mem_cons_self)
      have htail := ih hgroups.2
      rw [List.map_cons] at htail
      rw [List.map_cons, List.map_cons, String.intercalate_cons_cons, htail,
        List.intercalate_cons_cons, List.append_assoc, List.singleton_append,
        joinLines_append (Ne.symm hgroups.1) hrest]

/-- A text is cut into the lines that it was joined from. -/
theorem pieces_joinLines {lines : List String} (hlines : lines ≠ [])
    (hunbroken : ∀ line ∈ lines, '\n' ∉ line.toList) :
    Text.pieces '\n' (joinLines lines).toList = lines.map String.toList := by
  have hbreak : "\n".toList = ['\n'] := rfl
  rw [joinLines, String.toList_intercalate, hbreak]
  apply Text.pieces_intercalate
  · simpa using hlines
  · intro text htext
    obtain ⟨line, hline, rfl⟩ := List.mem_map.mp htext
    exact hunbroken line hline

/-- Every character of the lines is in their text. -/
theorem mem_joinLines {lines : List String} {line : String} {c : Char} (hline : line ∈ lines)
    (hc : c ∈ line.toList) : c ∈ (joinLines lines).toList := by
  unfold joinLines
  induction lines with
  | nil => cases hline
  | cons first rest ih =>
    cases rest with
    | nil =>
      rw [String.intercalate_singleton, ← List.mem_singleton.mp hline]
      exact hc
    | cons second rest =>
      rw [String.intercalate_cons_cons, String.toList_append, String.toList_append, List.mem_append,
        List.mem_append]
      rcases List.mem_cons.mp hline with rfl | hline
      · exact Or.inl (Or.inl hc)
      · exact Or.inr (ih hline)

/-- Lines with a brace have visible text. -/
theorem visibleCode_of_mem {lines : List String} {line : String} (hline : line ∈ lines)
    (hbrace : '\x7d' ∈ line.toList) : Draft.visibleCode lines = [joinLines lines] := by
  have hvisible : ¬(Text.trim (joinLines lines).toList).isEmpty = true := by
    rw [List.isEmpty_iff, Text.trim_eq_nil_iff]
    intro hblank
    exact absurd (hblank '\x7d' (mem_joinLines hline hbrace)) (by decide)
  rw [Draft.visibleCode, if_neg hvisible]

/-- A declaration has a brace. -/
theorem Script.Declaration.exists_brace (declaration : Declaration) :
    ∃ line ∈ declaration.lines, '\x7d' ∈ line.toList := by
  obtain ⟨closing, rest, hclosing, hbrace⟩ := declaration.closingLines_eq_cons
  have hmem : unindented closing ∈ declaration.lines.map unindented := by
    rw [declaration.map_unindented_lines, hclosing]
    simp
  obtain ⟨line, hline, hsame⟩ := List.mem_map.mp hmem
  rw [← hsame] at hbrace
  exact ⟨line, hline, (List.dropWhile_sublist _).subset (List.mem_of_head? hbrace)⟩

/-- A conversion has a brace. -/
theorem Script.Conversion.exists_brace (conversion : Conversion) :
    ∃ line ∈ conversion.lines, '\x7d' ∈ line.toList := by
  refine ⟨"\x7d", ?_, by decide⟩
  rw [Conversion.lines_eq]
  exact List.mem_append_right _ (List.mem_singleton_self _)

namespace Binding

/-- Every fragment of a binding has visible text. -/
theorem exists_brace_of_mem_fragments {binding : Binding} {fragment : Fragment}
    (hfragment : fragment ∈ binding.fragments) :
    ∃ line ∈ fragment.lines, '\x7d' ∈ line.toList := by
  rcases List.mem_cons.mp hfragment with rfl | hfragment
  · exact binding.declaration.exists_brace
  · obtain ⟨conversion, _, rfl⟩ := List.mem_map.mp hfragment
    exact conversion.exists_brace

/-- An enumeration with a name is added as its binding is written. -/
theorem outcome_addEnum_eq {binding : Binding} (hname : binding.enum.fullName ≠ "")
    (limits : Limits) (draft : Draft) :
    (draft.addEnum binding.options binding.enum limits).outcome =
      (Fragment.ending limits binding.fragments).map fun _ =>
        draft.addAll (Fragment.written limits binding.fragments) := by
  unfold Draft.addEnum
  simp only [Writing.writes_enum limits hname draft]

/-- The fragments of an enumeration that can be written are added to a draft. -/
theorem outcome_addEnum {enum : EnumDescriptor} {options : Options} {limits : Limits}
    (henum : enum.Writable options limits) (draft : Draft) :
    (draft.addEnum options enum limits).outcome =
      .ok (draft.addAll (Binding.mk enum options).fragments) := by
  have hadd := @outcome_addEnum_eq ⟨enum, options⟩ henum.fullName limits draft
  rw [Fragment.ending_of_fits henum.fits, Fragment.written_of_fits henum.fits] at hadd
  exact hadd

/-- An enumeration with too long a number is not added. -/
theorem outcome_addEnum_of_not_fits {enum : EnumDescriptor} {options : Options} {limits : Limits}
    (hname : enum.fullName ≠ "") (hfits : (Binding.mk enum options).fits limits = false)
    (draft : Draft) : (draft.addEnum options enum limits).outcome = .error .longNumber := by
  have hadd := @outcome_addEnum_eq ⟨enum, options⟩ hname limits draft
  rw [Fragment.ending_of_not_fits hfits] at hadd
  exact hadd

/-- An enumeration without a name is refused. -/
theorem outcome_addEnum_of_unnamed {enum : EnumDescriptor} {options : Options} {limits : Limits}
    (hempty : enum.fullName = "") (draft : Draft) :
    (draft.addEnum options enum limits).outcome =
      .error (.refused ⟨.emptyName, if enum.name = "" then none else some enum.name⟩) := by
  have hrun := @Writing.runOn_enum_of_unnamed limits ⟨enum, options⟩ hempty draft
  unfold Draft.addEnum
  simp only [hrun]
  rfl

/-- Each fragment of a binding becomes a text of its own. -/
theorem flatMap_visibleCode (binding : Binding) :
    binding.fragments.flatMap (Draft.visibleCode ·.lines) =
      (binding.fragments.map (·.lines)).map joinLines := by
  rw [List.map_map, List.map_eq_flatMap]
  refine List.flatMap_congr ?_
  intro fragment hfragment
  obtain ⟨line, hline, hbrace⟩ := exists_brace_of_mem_fragments hfragment
  exact visibleCode_of_mem hline hbrace

/-- What is written for an enumeration is its code, line by line. Cutting the text at line breaks
gives the lines of the code back if there are no breaks within lines. -/
theorem body_addEnum {binding : Binding} {limits : Limits}
    (hwritable : binding.enum.Writable binding.options limits) :
    ∃ draft, (Draft.addEnum binding.options {} binding.enum limits).outcome = .ok draft ∧
      draft.body = joinLines binding.code ∧
      ((∀ line ∈ binding.code, '\n' ∉ line.toList) →
        (Text.pieces '\n' draft.body.toList).map String.ofList = binding.code) := by
  have hgroups : [] ∉ binding.fragments.map (·.lines) := by
    intro hnil
    obtain ⟨fragment, hfragment, hlines⟩ := List.mem_map.mp hnil
    obtain ⟨line, hline, _⟩ := exists_brace_of_mem_fragments hfragment
    rw [hlines] at hline
    cases hline
  have hbody : (Draft.addAll {} binding.fragments).body = joinLines binding.code := by
    rw [Draft.body, Draft.fragments_addAll, flatMap_visibleCode, List.nil_append,
      intercalate_map_joinLines hgroups, code]
  refine ⟨_, outcome_addEnum hwritable {}, hbody, ?_⟩
  intro hunbroken
  have hcode : binding.code ≠ [] := by
    obtain ⟨line, hline, _⟩ := binding.declaration.exists_brace
    rw [code_eq]
    exact List.append_ne_nil_of_left_ne_nil (List.ne_nil_of_mem hline) _
  rw [hbody, pieces_joinLines hcode hunbroken, List.map_map]
  simp

end Binding

end EnumBindings
