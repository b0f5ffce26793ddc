import EnumBindings.Proofs.Binding.Legible
import EnumBindings.Proofs.Output.Assembly

/-!
# The lines of a module

A module is written as one text that ends with a line break. Its lines are those of the heading, of
the helpers and of the code for each enumeration, with an empty line between any two parts. Cutting
the text at line breaks gives these lines back, if the names in them are single lines.
-/

namespace EnumBindings

open Script

/-- The lines of a text. Behind a line break at the very end there is one more, which is empty. -/
def textLines (text : String) : List String :=
  (Text.pieces '\n' text.toList).map String.ofList

/-- The lines of the heading. -/
def headingLines (source : String) : List String :=
  ["/* eslint-disable */",
    "// Auto-generated by proto2ts from " ++
      (if source.isEmpty then "descriptors" else baseName source),
    "//", "// Do not edit by hand: changes will be lost when the file is regenerated."]

/-- The lines of the helpers that are needed, helper by helper. -/
def helperLines (options : Options) (enums : List EnumDescriptor) : List (List String) :=
  if enums.any fun enum => (Draft.alone options enum).needsGlobalObject then
    [Helper.globalObject.lines]
  else []

/-- The lines of a module. -/
def moduleLines (options : Options) (source : String) (enums : List EnumDescriptor) :
    List String :=
  headingLines source ++ (helperLines options enums).flatMap ("" :: ·) ++
    enums.flatMap fun enum => "" :: (Binding.mk enum options).code

variable {options : Options} {source : String} {enums : List EnumDescriptor}

/-- The code of an enumeration stands behind an empty line, fragment by fragment. -/
theorem Binding.flatMap_lines_fragments (binding : Binding) :
    (binding.fragments.map (·.lines)).flatMap ("" :: ·) = "" :: binding.code := by
  rw [code, fragments, List.map_cons, List.flatMap_cons, Text.intercalate_cons_eq_append,
    List.cons_append]

/-- A module is written line by line, and a line break ends the last line. -/
theorem outcome_generateModule_lines (hnamed : ∀ enum ∈ enums, enum.fullName ≠ "") :
    (generateModule enums options source).outcome =
      .ok (joinLines (moduleLines options source enums ++ [""])) := by
  let groups := headingLines source :: (helperLines options enums ++
    enums.flatMap fun enum => (Binding.mk enum options).fragments.map (·.lines))
  have hlines : [""].intercalate groups = moduleLines options source enums := by
    rw [Text.intercalate_cons_eq_append, List.flatMap_append, List.flatMap_assoc, moduleLines,
      List.append_assoc]
    simp only [Binding.flatMap_lines_fragments]
  have hgroups : [] ∉ groups := by
    intro hnil
    rcases List.mem_cons.mp hnil with hnil | hnil
    · cases hnil
    · rcases List.mem_append.mp hnil with hnil | hnil
      · unfold helperLines at hnil
        split at hnil
        · exact absurd (List.mem_singleton.mp hnil).symm (by simp [Helper.lines])
        · cases hnil
      · obtain ⟨enum, _, hnil⟩ := List.mem_flatMap.mp hnil
        obtain ⟨fragment, hfragment, hempty⟩ := List.mem_map.mp hnil
        obtain ⟨line, hline, _⟩ := Binding.exists_brace_of_mem_fragments hfragment
        rw [hempty] at hline
        cases hline
  have htexts : heading source :: helpersFor options enums ++
      enums.flatMap (contribution options) = groups.map joinLines := by
    have hhelpers : helpersFor options enums = (helperLines options enums).map joinLines := by
      unfold helpersFor helperLines
      split <;> rfl
    have hcontributions : enums.flatMap (contribution options) =
        enums.flatMap fun enum =>
          ((Binding.mk enum options).fragments.map (·.lines)).map joinLines :=
      List.flatMap_congr fun enum henum => contribution_eq (hnamed enum henum)
    rw [hhelpers, hcontributions, List.map_cons, List.map_append, List.map_flatMap]
    rfl
  have hend : joinLines (moduleLines options source enums ++ [""]) =
      joinLines (moduleLines options source enums) ++ "\n" := by
    have hne : moduleLines options source enums ≠ [] := by simp [moduleLines, headingLines]
    unfold joinLines
    rw [String.intercalate_append_of_ne_nil hne (List.cons_ne_nil _ _),
      String.intercalate_singleton, String.append_empty]
  rw [outcome_generateModule hnamed, assemble, htexts, intercalate_map_joinLines hgroups, hlines,
    hend]

/-- The heading consists of single lines if the name of the file is one. -/
theorem unbroken_headingLines (hsource : Unbroken source) :
    ∀ line ∈ headingLines source, Unbroken line := by
  have hname : Unbroken (if source.isEmpty then "descriptors" else baseName source) := by
    split
    · decide
    · unfold baseName
      cases hcut : Text.cutAtLast? '/' source.toList with
      | none => exact hsource
      | some cut =>
        obtain ⟨folder, name⟩ := cut
        obtain ⟨htext, _⟩ := Text.cutAtLast?_eq_some_iff.mp hcut
        rw [Unbroken, htext, List.mem_append, List.mem_cons, not_or, not_or] at hsource
        exact unbroken_ofList.mpr hsource.2.2
  intro line hline
  simp only [headingLines, List.mem_cons, List.not_mem_nil, or_false] at hline
  rcases hline with rfl | rfl | rfl | rfl
  · decide
  · exact unbroken_append.mpr ⟨by decide, hname⟩
  · decide
  · decide

/-- The helpers consist of single lines. -/
theorem unbroken_helperLines :
    ∀ line ∈ (helperLines options enums).flatMap ("" :: ·), Unbroken line := by
  have hhelper : ∀ line ∈ "" :: Helper.globalObject.lines, Unbroken line := by decide
  intro line hline
  unfold helperLines at hline
  split at hline
  · exact hhelper line (by simpa using hline)
  · cases hline

/-- The lines of a module are single lines if those of its enumerations are. -/
theorem unbroken_moduleLines (hsource : Unbroken source)
    (henums : ∀ enum ∈ enums, (Binding.mk enum options).SingleLined) :
    ∀ line ∈ moduleLines options source enums, Unbroken line := by
  intro line hline
  rcases List.mem_append.mp hline with hline | hline
  · rcases List.mem_append.mp hline with hline | hline
    · exact unbroken_headingLines hsource line hline
    · exact unbroken_helperLines line hline
  · obtain ⟨enum, henum, hline⟩ := List.mem_flatMap.mp hline
    rcases List.mem_cons.mp hline with rfl | hline
    · decide
    · exact (henums enum henum).unbroken_of_mem_code line hline

/-- A text of single lines is cut into these lines. -/
theorem textLines_joinLines {lines : List String} (hlines : lines ≠ [])
    (hunbroken : ∀ line ∈ lines, Unbroken line) : textLines (joinLines lines) = lines := by
  rw [textLines, pieces_joinLines hlines hunbroken, List.map_map]
  simp

/-- A module is cut into its lines, behind which there is an empty one. -/
theorem textLines_of_singleLined (hsource : Unbroken source)
    (henums : ∀ enum ∈ enums, (Binding.mk enum options).SingleLined) :
    textLines (joinLines (moduleLines options source enums ++ [""])) =
      moduleLines options source enums ++ [""] := by
  apply textLines_joinLines (by simp)
  intro line hline
  rcases List.mem_append.mp hline with hline | hline
  · exact unbroken_moduleLines hsource henums line hline
  · rw [List.mem_singleton.mp hline]
    decide

/-- A module of legible enumerations is cut into its lines. -/
theorem textLines_module (hsource : Unbroken source)
    (henums : ∀ enum ∈ enums, (Binding.mk enum options).Legible) :
    textLines (joinLines (moduleLines options source enums ++ [""])) =
      moduleLines options source enums ++ [""] :=
  textLines_of_singleLined hsource fun enum henum => (henums enum henum).singleLined

end EnumBindings
