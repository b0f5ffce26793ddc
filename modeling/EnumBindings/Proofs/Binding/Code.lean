import EnumBindings.Output.Fragment
import EnumBindings.Proofs.Comment.Block
import EnumBindings.Proofs.Script.DeclarationLines
import EnumBindings.Proofs.Script.Running

/-!
# The code of a binding

The code generated for an enumeration is the declaration followed by the conversions that the
options ask for. Each conversion is found in the code by its name.
-/

namespace EnumBindings.Binding

open Script

/-- The lines of all fragments, with an empty line between two of them. -/
def code (binding : Binding) : List String :=
  [""].intercalate (binding.fragments.map (·.lines))

/-- The code as a program that can be run. -/
def program (binding : Binding) : Program where
  declaredName := binding.declaredName
  reference := binding.reference
  lines := binding.code

/-- What the names of the conversions that are asked for end in. -/
def functionEndings (options : Options) : List String :=
  (if options.emitsFromJson then ["FromJSON"] else []) ++
    (if options.emitsToJson then ["ToJSON"] else []) ++
    if options.emitsToNumber then ["ToNumber"] else []

variable {binding : Binding}

/-- The code begins with the declaration. Each conversion stands behind an empty line. -/
theorem code_eq (binding : Binding) :
    binding.code =
      binding.declaration.lines ++ binding.conversions.flatMap fun conversion =>
        "" :: conversion.lines := by
  rw [code, fragments, List.map_cons, Text.intercalate_cons_eq_append, List.map_map,
    List.flatMap_map]
  rfl

/-- Comments are remarks, or are left out. -/
theorem isRemark_of_mem_commentLines {options : Options} {comment : Option String}
    {deprecated : Bool} {lead line : String}
    (hline : line ∈ commentLines options comment deprecated lead) : IsRemark line := by
  unfold commentLines at hline
  split at hline
  · exact Comment.isRemark_of_mem_block hline
  · cases hline

/-- In a row of conversions each is found by its name, if none before it has the same name up to
the parenthesis. -/
theorem functionBranches_flatMap {conversions : List Conversion}
    (hapart : conversions.Pairwise fun first second =>
      opensFunction second.name first.opening = false)
    {conversion : Conversion} (hconversion : conversion ∈ conversions) (behind : List String) :
    functionBranches conversion.name ((conversions.flatMap fun conversion =>
        "" :: conversion.lines) ++ behind) =
      conversion.arms.map Arm.branch := by
  induction conversions with
  | nil => cases hconversion
  | cons first rest ih =>
    obtain ⟨hfirst, hrest⟩ := List.pairwise_cons.mp hapart
    rw [List.flatMap_cons, List.append_assoc]
    rcases List.mem_cons.mp hconversion with rfl | hconversion
    · have hempty : ∀ line ∈ [""], opensFunction conversion.name line = false := by
        intro line hline
        rw [List.mem_singleton.mp hline]
        exact opensFunction_eq_false_of_head? (by decide)
      rw [List.cons_append, ← List.singleton_append, functionBranches_append hempty,
        Conversion.functionBranches_lines]
    · rw [functionBranches_append, ih hrest hconversion]
      intro line hline
      rcases List.mem_cons.mp hline with rfl | hline
      · exact opensFunction_eq_false_of_head? (by decide)
      · exact Conversion.opensFunction_of_mem_lines (hfirst conversion hconversion) hline

/-- Functions are told apart by what their names end in. -/
theorem opensFunction_functionName {ending other : String} {conversion : Conversion}
    (hname : conversion.name = binding.functionName other)
    (hending : ∀ rest,
      ¬ending.toList ++ "(".toList <+: other.toList ++ ("(object: ".toList ++ rest)) :
    opensFunction (binding.functionName ending) conversion.opening = false := by
  rw [opensFunction, Bool.eq_false_iff, Ne, List.isPrefixOf_iff_prefix]
  unfold Conversion.opening functionName
  rw [hname]
  unfold functionName
  simp only [String.toList_append, List.append_assoc]
  rw [List.prefix_append_right_inj, List.prefix_append_right_inj]
  exact hending _

/-- No conversion has the name of one behind it. -/
theorem conversions_pairwise (binding : Binding) :
    binding.conversions.Pairwise fun first second =>
      opensFunction second.name first.opening = false := by
  have hall : [binding.fromJson binding.sentinel, binding.toJson binding.sentinel,
      binding.toNumber binding.sentinel].Pairwise fun first second =>
        opensFunction second.name first.opening = false := by
    simp only [List.pairwise_cons, List.mem_cons, List.not_mem_nil, or_false, forall_eq_or_imp,
      forall_eq, false_imp_iff, implies_true, List.Pairwise.nil, and_true]
    refine ⟨⟨?_, ?_⟩, ?_⟩
    · exact opensFunction_functionName rfl (by simp)
    · exact opensFunction_functionName rfl (by simp)
    · exact opensFunction_functionName rfl (by simp)
  have hoptional (wanted : Bool) (conversion : Conversion) :
      (if wanted then [conversion] else []).Sublist [conversion] := by
    cases wanted
    · exact List.nil_sublist _
    · exact List.Sublist.refl _
  exact hall.sublist (((hoptional _ _).append (hoptional _ _)).append (hoptional _ _))

/-- The conversions that are asked for have the name of the enumeration and their endings. -/
theorem map_name_conversions (binding : Binding) :
    binding.conversions.map (·.name) =
      (functionEndings binding.options).map binding.functionName := by
  unfold conversions functionEndings
  cases binding.options.emitsFromJson <;> cases binding.options.emitsToJson <;>
    cases binding.options.emitsToNumber <;> rfl

/-- A conversion that is asked for is one of the three. -/
theorem eq_of_mem_conversions {conversion : Conversion}
    (hconversion : conversion ∈ binding.conversions) :
    conversion = binding.fromJson binding.sentinel ∨
      conversion = binding.toJson binding.sentinel ∨
      conversion = binding.toNumber binding.sentinel := by
  simp only [conversions, List.mem_append, List.mem_ite_nil_right, List.mem_singleton]
    at hconversion
  rcases hconversion with (⟨_, hfrom⟩ | ⟨_, hto⟩) | ⟨_, hnumber⟩
  · exact Or.inl hfrom
  · exact Or.inr (Or.inl hto)
  · exact Or.inr (Or.inr hnumber)

/-- The name of a conversion ends in one of the endings that are asked for. -/
theorem exists_ending_of_mem_conversions {conversion : Conversion}
    (hconversion : conversion ∈ binding.conversions) :
    ∃ ending ∈ functionEndings binding.options, conversion.name = binding.functionName ending := by
  have hname := List.mem_map_of_mem (f := (·.name)) hconversion
  rw [map_name_conversions, List.mem_map] at hname
  obtain ⟨ending, hending, hname⟩ := hname
  exact ⟨ending, hending, hname.symm⟩

/-- There are no more than three endings. -/
theorem functionEndings_subset (options : Options) :
    functionEndings options ⊆ ["FromJSON", "ToJSON", "ToNumber"] := by
  intro ending hending
  simp only [functionEndings, List.mem_append, List.mem_ite_nil_right, List.mem_singleton]
    at hending
  simp only [List.mem_cons, List.not_mem_nil, or_false]
  tauto

/-- A conversion is found in the code by its name, whatever stands behind the code. -/
theorem functionBranches_code_append {conversion : Conversion}
    (hconversion : conversion ∈ binding.conversions) (behind : List String) :
    functionBranches conversion.name (binding.code ++ behind) =
      conversion.arms.map Arm.branch := by
  have hdeclaration : ∀ line ∈ binding.declaration.lines,
      opensFunction conversion.name line = false := by
    intro line hline
    exact Declaration.opensFunction_of_mem_lines (fun _ => isRemark_of_mem_commentLines) hline
  rw [code_eq, List.append_assoc, functionBranches_append hdeclaration,
    functionBranches_flatMap binding.conversions_pairwise hconversion]

/-- A conversion is found in the code by its name. -/
theorem functionBranches_conversion {conversion : Conversion}
    (hconversion : conversion ∈ binding.conversions) :
    functionBranches conversion.name binding.code = conversion.arms.map Arm.branch := by
  rw [← functionBranches_code_append hconversion [], List.append_nil]

/-- The code has every conversion that the options ask for. -/
theorem defines_conversion {conversion : Conversion}
    (hconversion : conversion ∈ binding.conversions) :
    binding.program.defines conversion.name = true := by
  have hopening : conversion.opening ∈ binding.code := by
    rw [code_eq, List.mem_append, List.mem_flatMap]
    refine Or.inr ⟨conversion, hconversion, ?_⟩
    rw [Conversion.lines_eq]
    simp
  exact List.any_eq_true.mpr ⟨_, hopening, conversion.opensFunction_opening⟩

theorem fromJson_mem_conversions (hemits : binding.options.emitsFromJson = true) :
    binding.fromJson binding.sentinel ∈ binding.conversions := by
  simp [conversions, hemits]

theorem toJson_mem_conversions (hemits : binding.options.emitsToJson = true) :
    binding.toJson binding.sentinel ∈ binding.conversions := by
  simp [conversions, hemits]

theorem toNumber_mem_conversions (hemits : binding.options.emitsToNumber = true) :
    binding.toNumber binding.sentinel ∈ binding.conversions := by
  simp [conversions, hemits]

/-- The arms of the conversion from JSON are found in the code. -/
theorem functionBranches_fromJson (hemits : binding.options.emitsFromJson = true) :
    functionBranches (binding.functionName "FromJSON") binding.code =
      (binding.members.map binding.fromJsonArm ++
        [binding.fromJsonRest binding.sentinel]).map Arm.branch := by
  have hconversion := functionBranches_conversion (fromJson_mem_conversions hemits)
  exact hconversion

/-- The arms of the conversion to JSON are found in the code. -/
theorem functionBranches_toJson (hemits : binding.options.emitsToJson = true) :
    functionBranches (binding.functionName "ToJSON") binding.code =
      (binding.members.map binding.toJsonArm ++
        [binding.toJsonRest binding.sentinel]).map Arm.branch := by
  have hconversion := functionBranches_conversion (toJson_mem_conversions hemits)
  exact hconversion

/-- The arms of the conversion to numbers are found in the code. -/
theorem functionBranches_toNumber (hemits : binding.options.emitsToNumber = true) :
    functionBranches (binding.functionName "ToNumber") binding.code =
      (binding.members.map binding.toNumberArm ++
        [binding.toNumberRest binding.sentinel]).map Arm.branch := by
  have hconversion := functionBranches_conversion (toNumber_mem_conversions hemits)
  exact hconversion

end EnumBindings.Binding
