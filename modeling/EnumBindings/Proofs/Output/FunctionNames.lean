import EnumBindings.Proofs.Binding.Legible
import EnumBindings.Proofs.Comment.Enclosure
import EnumBindings.Proofs.Output.Assembly

/-!
# The functions of a module

The conversions of all enumerations stand in one module under names that are made of a full name,
with its first character in lower case, and an ending. A draft notes a name that it knows only once,
and writes the function all the same. No two functions of a module have the same name exactly if
there are none, or the full names are still different when they begin in lower case.
-/

namespace EnumBindings

open Script Binding

/-- The name of the function that a text opens, if it opens one. -/
def Script.functionName? (text : String) : Option String :=
  let name := String.ofList ((text.toList.drop "export function ".length).takeWhile (· ≠ '('))
  if opensFunction name text then some name else none

/-- The names of the functions that a module has for enumerations. -/
def functionNames (options : Options) (enums : List EnumDescriptor) : List String :=
  enums.flatMap fun enum => (functionEndings options).map (uncapitalize enum.fullName ++ ·)

/-- Two enumerations whose full names differ in the case of their first character. -/
def twins : List EnumDescriptor :=
  [{ name := "Foo", fullName := "Foo" }, { name := "foo", fullName := "foo" }]

/-- Two enumerations whose full names differ in the ending of a conversion. -/
def siblings : List EnumDescriptor :=
  [{ name := "Frame", fullName := "Frame" },
    { name := "FrameToJSON", fullName := "FrameToJSON" }]

variable {options : Options} {enums : List EnumDescriptor} {name text : String}

/-- A text opens the function with a name, in which there is no parenthesis. -/
theorem Script.functionName?_eq_some_iff :
    functionName? text = some name ↔ '(' ∉ name.toList ∧ opensFunction name text = true := by
  rw [functionName?, Option.ite_none_right_eq_some, Option.some.injEq]
  constructor
  · rintro ⟨hopens, rfl⟩
    refine ⟨fun hmem => ?_, hopens⟩
    rw [String.toList_ofList] at hmem
    simpa using List.mem_takeWhile_imp hmem
  · rintro ⟨hname, hopens⟩
    have hread : String.ofList
        ((text.toList.drop "export function ".length).takeWhile (· ≠ '(')) = name := by
      obtain ⟨rest, htext⟩ := List.isPrefixOf_iff_prefix.mp hopens
      have hplain : ∀ c ∈ name.toList, decide (c ≠ '(') = true := fun c hc =>
        decide_eq_true fun hparenthesis => hname (hparenthesis ▸ hc)
      rw [← htext, String.toList_append, String.toList_append, List.append_assoc,
        List.append_assoc, ← String.length_toList, List.drop_left,
        List.takeWhile_append_of_pos hplain]
      simp
    exact ⟨by rwa [hread], hread⟩

/-- A text that opens no function has none. -/
theorem Script.functionName?_eq_none (htext : ∀ name, opensFunction name text = false) :
    functionName? text = none :=
  if_neg (by rw [htext]; decide)

/-- The function of a conversion has its name. -/
theorem Script.Conversion.functionName?_lines {conversion : Conversion}
    (hname : '(' ∉ conversion.name.toList) :
    functionName? (joinLines conversion.lines) = some conversion.name := by
  obtain ⟨rest, htext⟩ :=
    exists_joinLines_cons conversion.opening (conversion.bodyLines ++ ["\x7d"])
  rw [conversion.lines_eq, List.cons_append, htext, functionName?_eq_some_iff]
  exact ⟨hname, opensFunction_append conversion.opensFunction_opening rest⟩

/-- What is declared opens no function, within a scope or not. -/
theorem Script.Declaration.opensFunction_of_uncommented {declaration : Declaration}
    (hcomment : declaration.comment = []) :
    opensFunction name (joinLines declaration.lines) = false := by
  rw [Declaration.lines, hcomment, List.nil_append]
  cases declaration.scope with
  | none =>
    obtain ⟨rest, htext⟩ := exists_joinLines_cons
      (declaration.representation.declarationOpening declaration.name) _
    show opensFunction name (joinLines (_ :: _)) = false
    rw [htext]
    exact Representation.opensFunction_declarationOpening _ _ _ _
  | some scope =>
    obtain ⟨rest, htext⟩ := exists_joinLines_cons
      (declaration.representation.scopeOpening scope) _
    show opensFunction name (joinLines (_ :: _)) = false
    rw [htext]
    exact Representation.opensFunction_scopeOpening _ _ _ _

/-- A text that begins with a comment opens no function. -/
theorem opensFunction_of_commentLines {comment : Option String} {deprecated : Bool} {lead : String}
    {rest : List String} (hcomment : commentLines options comment deprecated lead ≠ [])
    (hrest : rest ≠ []) :
    opensFunction name (joinLines (commentLines options comment deprecated lead ++ rest)) =
      false := by
  unfold commentLines at hcomment ⊢
  split at hcomment
  · next hasked =>
    obtain ⟨behind, hbegin⟩ := Comment.opens_block hcomment
    rw [if_pos hasked, joinLines, String.intercalate_append_of_ne_nil hcomment hrest]
    apply opensFunction_eq_false_of_head?
    rw [String.toList_append, String.toList_append, ← joinLines, ← hbegin]
    simp
  · exact absurd rfl hcomment

/-- No function is opened by a declaration, neither by its comment nor by what it exports. -/
theorem Binding.functionName?_declaration (binding : Binding) :
    functionName? (joinLines binding.declaration.lines) = none := by
  refine functionName?_eq_none fun name => ?_
  by_cases hcomment : binding.declaration.comment = []
  · exact Declaration.opensFunction_of_uncommented hcomment
  · refine opensFunction_of_commentLines hcomment ?_
    split
    · exact List.cons_ne_nil _ _
    · exact List.cons_ne_nil _ _

/-- No parenthesis is in the name of a conversion, if there is none in the name of the
enumeration. -/
theorem Binding.notMem_name_conversions {binding : Binding} {conversion : Conversion}
    (hname : '(' ∉ binding.enum.fullName.toList) (hconversion : conversion ∈ binding.conversions) :
    '(' ∉ conversion.name.toList := by
  obtain ⟨ending, hending, hconversionName⟩ := exists_ending_of_mem_conversions hconversion
  have hplain : ∀ ending ∈ ["FromJSON", "ToJSON", "ToNumber"], '(' ∉ ending.toList := by decide
  rw [hconversionName, functionName, String.toList_append, List.mem_append, not_or]
  exact ⟨notMem_uncapitalize (by decide) (by decide) hname,
    hplain ending (functionEndings_subset _ hending)⟩

/-- The functions among the texts that an enumeration contributes are its conversions. -/
theorem Binding.filterMap_functionName?_contribution (binding : Binding)
    (hname : Text.isIdentifier binding.enum.fullName.toList = true) :
    (contribution binding.options binding.enum).filterMap functionName? =
      (functionEndings binding.options).map binding.functionName := by
  have hparenthesis : '(' ∉ binding.enum.fullName.toList :=
    notMem_of_isIdentifier (by decide) hname
  rw [contribution_eq_conversions binding (ne_empty_of_isIdentifier hname),
    List.filterMap_cons_none binding.functionName?_declaration, List.filterMap_map,
    ← binding.map_name_conversions, List.filterMap_eq_map_iff_forall_eq_some]
  intro conversion hconversion
  rw [Function.comp_apply]
  exact Conversion.functionName?_lines (notMem_name_conversions hparenthesis hconversion)

/-- The functions in a module are those of its enumerations in order. -/
theorem filterMap_functionName?_contributions (options : Options)
    (hnames : ∀ enum ∈ enums, Text.isIdentifier enum.fullName.toList = true) :
    (enums.flatMap (contribution options)).filterMap functionName? =
      functionNames options enums := by
  rw [List.filterMap_flatMap, functionNames]
  refine List.flatMap_congr fun enum henum => ?_
  exact Binding.filterMap_functionName?_contribution ⟨enum, options⟩ (hnames enum henum)

/-- No ending of a conversion is the end of another one. -/
theorem eq_of_suffix_of_mem_functionEndings {first second : String}
    (hfirst : first ∈ functionEndings options) (hsecond : second ∈ functionEndings options)
    (hsuffix : first.toList <:+ second.toList) : first = second := by
  have hall : ∀ first ∈ ["FromJSON", "ToJSON", "ToNumber"],
      ∀ second ∈ ["FromJSON", "ToJSON", "ToNumber"],
        first.toList <:+ second.toList → first = second := by
    decide
  exact hall first (functionEndings_subset options hfirst) second
    (functionEndings_subset options hsecond) hsuffix

/-- The name of a function tells what it begins with and what it ends in. -/
theorem append_functionEnding_inj {stem other first second : String}
    (hfirst : first ∈ functionEndings options) (hsecond : second ∈ functionEndings options)
    (hname : stem ++ first = other ++ second) : stem = other ∧ first = second := by
  have hchars : stem.toList ++ first.toList = other.toList ++ second.toList := by
    rw [← String.toList_append, hname, String.toList_append]
  have hending : first = second := by
    rcases List.suffix_or_suffix_of_suffix (List.suffix_append stem.toList first.toList)
      (hchars ▸ List.suffix_append other.toList second.toList) with hsuffix | hsuffix
    · exact eq_of_suffix_of_mem_functionEndings hfirst hsecond hsuffix
    · exact (eq_of_suffix_of_mem_functionEndings hsecond hfirst hsuffix).symm
  rw [hending, List.append_left_inj, String.toList_inj] at hchars
  exact ⟨hchars, hending⟩

/-- The endings for one enumeration are different. -/
theorem nodup_functionEndings (options : Options) : (functionEndings options).Nodup := by
  unfold functionEndings
  cases options.emitsFromJson <;> cases options.emitsToJson <;> cases options.emitsToNumber <;>
    decide

/-- If there are functions, those of two enumerations have no name in common exactly if what their
names begin with differs. -/
theorem disjoint_functionNames_iff {stem other : String} (hendings : functionEndings options ≠ []) :
    List.Disjoint ((functionEndings options).map (stem ++ ·))
      ((functionEndings options).map (other ++ ·)) ↔ stem ≠ other := by
  constructor
  · rintro hdisjoint rfl
    obtain ⟨ending, hending⟩ := List.exists_mem_of_ne_nil _ hendings
    exact hdisjoint (List.mem_map_of_mem hending) (List.mem_map_of_mem hending)
  · intro hne name hfirst hsecond
    obtain ⟨ending, hending, rfl⟩ := List.mem_map.mp hfirst
    obtain ⟨another, hanother, hname⟩ := List.mem_map.mp hsecond
    exact hne (append_functionEnding_inj hending hanother hname.symm).1

/-- No two names of functions are the same exactly if there are none, or what they begin with
differs between any two enumerations. -/
theorem nodup_functionNames_iff :
    (functionNames options enums).Nodup ↔
      functionEndings options = [] ∨ (enums.map (uncapitalize ·.fullName)).Nodup := by
  by_cases hendings : functionEndings options = []
  · have hnone : functionNames options enums = [] := by
      rw [functionNames, hendings]
      exact List.flatMap_eq_nil_iff.mpr fun _ _ => rfl
    simp [hnone, hendings]
  · have heach : ∀ enum ∈ enums,
        ((functionEndings options).map (uncapitalize enum.fullName ++ ·)).Nodup := by
      intro enum _
      refine (nodup_functionEndings options).map_on ?_
      intro first hfirst second hsecond hname
      exact (append_functionEnding_inj hfirst hsecond hname).2
    rw [functionNames, List.nodup_flatMap, or_iff_right hendings, and_iff_right heach, List.Nodup,
      List.pairwise_map]
    exact List.Pairwise.iff fun _ _ => disjoint_functionNames_iff hendings

/-- The functions in a module have different names exactly if there are none, or the full names of
the enumerations are still different when their first characters are in lower case. -/
theorem nodup_functions_iff (options : Options) (source : String)
    (hnames : ∀ enum ∈ enums, Text.isIdentifier enum.fullName.toList = true) :
    (generateModule enums options source).outcome =
        .ok (assemble source (helpersFor options enums) (enums.flatMap (contribution options))) ∧
      (enums.flatMap (contribution options)).filterMap functionName? = functionNames options enums ∧
      (((enums.flatMap (contribution options)).filterMap functionName?).Nodup ↔
        functionEndings options = [] ∨ (enums.map (uncapitalize ·.fullName)).Nodup) := by
  have hread := filterMap_functionName?_contributions options hnames
  refine ⟨?_, hread, ?_⟩
  · exact outcome_generateModule
      (fun enum henum => ne_empty_of_isIdentifier (hnames enum henum)) source
  · rw [hread]
    exact nodup_functionNames_iff

/-- An ending within a full name is told apart from that of a function. -/
theorem nodup_functions_siblings :
    functionNames {} siblings =
        ["frameFromJSON", "frameToJSON", "frameToJSONFromJSON", "frameToJSONToJSON"] ∧
      ((siblings.flatMap (contribution {})).filterMap functionName?).Nodup := by
  obtain ⟨_, _, hiff⟩ := @nodup_functions_iff siblings {} ""
    (by simp only [siblings, List.forall_mem_cons]; decide +kernel)
  exact ⟨by decide +kernel, hiff.mpr (Or.inr (by decide +kernel))⟩

/-- Full names may be different identifiers, and the module still has two functions of one name. -/
theorem not_nodup_functions_twins :
    (twins.map (·.fullName)).Nodup ∧
      (∀ enum ∈ twins, Text.isIdentifier enum.fullName.toList = true) ∧
      (generateModule twins {} "").outcome =
        .ok (assemble "" (helpersFor {} twins) (twins.flatMap (contribution {}))) ∧
      (twins.flatMap (contribution {})).filterMap functionName? =
        ["fooFromJSON", "fooToJSON", "fooFromJSON", "fooToJSON"] ∧
      ¬((twins.flatMap (contribution {})).filterMap functionName?).Nodup := by
  have hnames : ∀ enum ∈ twins, Text.isIdentifier enum.fullName.toList = true := by
    simp only [twins, List.forall_mem_cons]
    decide +kernel
  have hread : (twins.flatMap (contribution {})).filterMap functionName? =
      ["fooFromJSON", "fooToJSON", "fooFromJSON", "fooToJSON"] := by
    rw [filterMap_functionName?_contributions {} hnames]
    decide +kernel
  refine ⟨by decide, hnames, ?_, hread, by rw [hread]; decide⟩
  exact outcome_generateModule (fun enum henum => ne_empty_of_isIdentifier (hnames enum henum)) ""

end EnumBindings
