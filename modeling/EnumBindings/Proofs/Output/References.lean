import EnumBindings.Proofs.Output.DeclarationText
import EnumBindings.Proofs.Script.Placement

/-!
# References to members

The declaration of an enumeration and its conversions are written apart from each other, and each of
them decides anew about the sentinel. In the texts that a module is assembled from, the conversions
refer to the members of the declaration and to no others, in one and the same way, which is the one
that the place of the declaration asks for.
-/

namespace EnumBindings

open Script

/-- The expressions in the labels of the function with a name, in order. -/
def Script.labelsOf (name : String) (lines : List String) : List String :=
  (functionBranches name lines).flatMap (·.labels)

/-- The expression that a function returns where it ends like this. -/
def Script.Outcome.returned? : Outcome → Option String
  | .gives code => some code
  | .throws => none
  | .ends => none

/-- The expressions that the function with a name returns, in order. -/
def Script.returnsOf (name : String) (lines : List String) : List String :=
  (functionBranches name lines).filterMap (·.outcome.returned?)

/-- The names that the members of an enumeration are to have: those of its values in the order of
the schema, and that of the sentinel if it is asked for and no value has its code. -/
def namesOfMembers (options : Options) (enum : EnumDescriptor) : List String :=
  enum.values.map (memberName options enum) ++
    if options.sentinel = true ∧ ∀ value ∈ enum.values, value.number ≠ options.sentinelCode then
      [options.sentinelName]
    else []

/-- The first line of a function with a name and the types of its parameter and its result. -/
def Script.openingLine (name parameterType resultType : String) : String :=
  "export function " ++ name ++ "(object: " ++ parameterType ++ "): " ++ resultType ++ " \x7b"

/-- A declaration and conversions that agree: all of them have the members of the enumeration and
refer to them in the way that the placement of the declaration asks for. -/
structure References (options : Options) (enum : EnumDescriptor) (placement : Placement)
    (declaration fromJson toJson toNumber : List String) : Prop where
  placed : readPlacement? declaration = some placement
  /-- The declaration has the members in order. -/
  declared : (readEntries placement.name declaration).map Prod.fst = namesOfMembers options enum
  /-- The conversion from JSON returns every member, and nothing else. -/
  returned : options.emitsFromJson = true → ∀ code,
    code ∈ returnsOf (uncapitalize enum.fullName ++ "FromJSON") fromJson ↔
      ∃ name ∈ namesOfMembers options enum, code = placement.member name
  /-- The conversion to JSON has a label for each member, in order. -/
  encoded : options.emitsToJson = true →
    labelsOf (uncapitalize enum.fullName ++ "ToJSON") toJson =
      (namesOfMembers options enum).map placement.member
  /-- The conversion to numbers has a label for each member, in order. -/
  numbered : options.emitsToNumber = true →
    labelsOf (uncapitalize enum.fullName ++ "ToNumber") toNumber =
      (namesOfMembers options enum).map placement.member
  fromJson_opening : options.emitsFromJson = true →
    fromJson.head? =
      some (openingLine (uncapitalize enum.fullName ++ "FromJSON") "any" placement.reference)
  toJson_opening : options.emitsToJson = true →
    toJson.head? =
      some (openingLine (uncapitalize enum.fullName ++ "ToJSON") placement.reference
        (if options.numericJson then "number" else "string"))
  toNumber_opening : options.emitsToNumber = true →
    toNumber.head? =
      some (openingLine (uncapitalize enum.fullName ++ "ToNumber") placement.reference "number")

namespace Binding

variable {binding : Binding}

/-- How the declaration is placed. -/
def placement (binding : Binding) : Placement :=
  ⟨binding.declaration.scope, binding.declaration.name⟩

/-- The enumeration is referred to as its placement asks for. -/
theorem reference_eq (binding : Binding) : binding.reference = binding.placement.reference := by
  unfold reference placement Placement.reference declaration declaredName
  cases binding.scope <;> rfl

/-- The expression for a member is the one that the placement asks for. -/
theorem code_memberExpression (binding : Binding) (name : String) :
    (binding.memberExpression name).code = binding.placement.member name := by
  rw [memberExpression, Expression.code, reference_eq, Placement.member]

/-- The members are named as they are to be named. -/
theorem names_allMembers (binding : Binding) :
    binding.allMembers.map (·.name) = namesOfMembers binding.options binding.enum := by
  have hschema : binding.members.map (·.name) =
      binding.enum.values.map (memberName binding.options binding.enum) := by
    rw [members, EnumBindings.members, List.map_map]
    rfl
  unfold allMembers namesOfMembers
  rw [List.map_append, hschema]
  by_cases hadded : binding.sentinel.isAdded binding.options = true
  · rw [if_pos hadded, if_pos ((isAdded_iff_forall_values binding).mp hadded)]
    rfl
  · rw [if_neg hadded, if_neg (mt (isAdded_iff_forall_values binding).mpr hadded)]
    rfl

/-- The labels of the arms for all members are the expressions for them, and the last arm has one
for the sentinel exactly if that is added. -/
theorem flatMap_labels_arms {arm : Member → Arm} {rest : Arm}
    (harm : ∀ member, (arm member).labels = [.value (binding.memberExpression member.name)])
    (hrest : rest.branch.labels = if binding.sentinel.isAdded binding.options then
      [(binding.memberExpression binding.options.sentinelName).code] else []) :
    ((binding.members.map arm ++ [rest]).map Arm.branch).flatMap (·.labels) =
      (namesOfMembers binding.options binding.enum).map binding.placement.member := by
  have hmembers : ((binding.members.map arm).map Arm.branch).flatMap (·.labels) =
      binding.members.map fun member => (binding.memberExpression member.name).code := by
    rw [List.map_map, List.flatMap_map, List.map_eq_flatMap]
    refine List.flatMap_congr fun member _ => ?_
    rw [Function.comp_apply, Arm.branch, harm]
    rfl
  have hnames : (namesOfMembers binding.options binding.enum).map binding.placement.member =
      binding.allMembers.map fun member => (binding.memberExpression member.name).code := by
    rw [← names_allMembers, List.map_map]
    exact List.map_congr_left fun member _ => (code_memberExpression binding member.name).symm
  rw [List.map_append, List.flatMap_append, hmembers, List.map_singleton, List.flatMap_singleton,
    hrest, hnames, allMembers, List.map_append]
  split <;> rfl

/-- The last arm of the conversion to JSON refers to the sentinel only if it is added. -/
theorem labels_toJsonRest (binding : Binding) :
    (binding.toJsonRest binding.sentinel).branch.labels =
      if binding.sentinel.isAdded binding.options then
        [(binding.memberExpression binding.options.sentinelName).code] else [] := by
  cases hon : binding.options.sentinel with
  | false =>
    rw [toJsonRest_eq_refusal hon]
    simp only [Sentinel.isAdded, hon, Bool.false_and, Bool.false_eq_true, if_false]
    rfl
  | true =>
    cases hsentinel : binding.sentinel with
    | absent => simp only [toJsonRest, Sentinel.isAdded, Sentinel.isTaken, hon, if_true]; rfl
    | taken name wireName =>
      simp only [toJsonRest, Sentinel.isAdded, Sentinel.isTaken, hon, if_true]; rfl

/-- The last arm of the conversion to numbers refers to the sentinel only if it is added. -/
theorem labels_toNumberRest (binding : Binding) :
    (binding.toNumberRest binding.sentinel).branch.labels =
      if binding.sentinel.isAdded binding.options then
        [(binding.memberExpression binding.options.sentinelName).code] else [] := by
  unfold toNumberRest Arm.branch
  split <;> rfl

/-- A function with an arm for each member returns what it has for the members of the schema, and
then for the sentinel member if there is a sentinel. -/
theorem filterMap_returned?_arms {arm : Member → Arm} {rest : Arm} {given : Member → Expression}
    (harm : ∀ member, (arm member).statement = .give (given member))
    (hrest : rest.branch.outcome.returned? = binding.fallback.map fun member =>
      (given member).code) :
    ((binding.members.map arm ++ [rest]).map Arm.branch).filterMap (·.outcome.returned?) =
      (binding.members ++ binding.fallback.toList).map fun member => (given member).code := by
  have hmembers : ((binding.members.map arm).map Arm.branch).filterMap (·.outcome.returned?) =
      binding.members.map fun member => (given member).code := by
    rw [List.map_map, List.filterMap_map, List.filterMap_eq_map_iff_forall_eq_some]
    intro member _
    rw [Function.comp_apply, Function.comp_apply, Arm.branch, harm]
    rfl
  rw [List.map_append, List.filterMap_append, hmembers, List.map_append, List.map_singleton,
    List.filterMap_cons, hrest]
  cases binding.fallback <;> rfl

/-- The conversion from JSON returns the expressions for the members of the schema, and then the one
for the sentinel member if there is a sentinel. -/
theorem filterMap_returned?_fromJson (binding : Binding) :
    ((binding.fromJson binding.sentinel).arms.map Arm.branch).filterMap (·.outcome.returned?) =
      (binding.members ++ binding.fallback.toList).map fun member =>
        (binding.memberExpression member.name).code := by
  refine filterMap_returned?_arms (fun _ => rfl) ?_
  rw [(branch_fromJsonRest binding).2]
  cases binding.fallback <;> rfl

/-- The names of the members are those of the schema and that of the sentinel member, which may be
among them. -/
theorem mem_namesOfMembers_iff {name : String} :
    name ∈ namesOfMembers binding.options binding.enum ↔
      ∃ member ∈ binding.members ++ binding.fallback.toList, member.name = name := by
  rw [← names_allMembers, List.mem_map]
  constructor
  · rintro ⟨member, hmember, rfl⟩
    rcases mem_members_or_eq_addedSentinel hmember with hschema | ⟨hadded, rfl⟩
    · exact ⟨member, List.mem_append_left _ hschema, rfl⟩
    · obtain ⟨hon, hfind⟩ := (isAdded_eq_true_iff binding).mp hadded
      refine ⟨binding.sentinelMember, ?_, by rw [sentinelMember, hfind, Option.getD_none]⟩
      rw [fallback_eq_some hon]
      exact List.mem_append_right _ (List.mem_singleton_self _)
  · rintro ⟨member, hmember, rfl⟩
    rcases List.mem_append.mp hmember with hschema | hfallback
    · exact ⟨member, List.mem_append_left _ hschema, rfl⟩
    · cases hon : binding.options.sentinel with
      | false => simp [fallback_eq_none hon] at hfallback
      | true =>
        rw [fallback_eq_some hon, Option.toList_some, List.mem_singleton] at hfallback
        exact ⟨member, hfallback ▸ sentinelMember_mem hon, rfl⟩

/-- An expression is returned by the conversion from JSON exactly if it is one for a member. -/
theorem mem_returned?_fromJson_iff {code : String} :
    code ∈ ((binding.fromJson binding.sentinel).arms.map Arm.branch).filterMap
        (·.outcome.returned?) ↔
      ∃ name ∈ namesOfMembers binding.options binding.enum,
        code = binding.placement.member name := by
  rw [filterMap_returned?_fromJson, List.mem_map]
  constructor
  · rintro ⟨member, hmember, rfl⟩
    exact ⟨member.name, mem_namesOfMembers_iff.mpr ⟨member, hmember, rfl⟩,
      code_memberExpression _ _⟩
  · rintro ⟨name, hname, rfl⟩
    obtain ⟨member, hmember, rfl⟩ := mem_namesOfMembers_iff.mp hname
    exact ⟨member, hmember, code_memberExpression _ _⟩

namespace Legible

variable (hlegible : binding.Legible)

include hlegible

/-- From the text of a declaration its placement and the names of its members are read. -/
theorem read_declaration (hfullName : '=' ∉ binding.enum.fullName.toList) :
    readPlacement? (textLines (joinLines binding.declaration.lines)) = some binding.placement ∧
      (readEntries binding.placement.name (textLines (joinLines binding.declaration.lines))).map
        Prod.fst = namesOfMembers binding.options binding.enum := by
  obtain ⟨line, hline, _⟩ := binding.declaration.exists_brace
  have hname : '=' ∉ binding.declaration.name.toList := by
    show '=' ∉ (EnumBindings.declaredName binding.enum.fullName binding.scope).toList
    cases hscope : binding.scope with
    | none => exact hfullName
    | some scope =>
      rw [Scope.toList_of_split? hscope, List.mem_append, List.mem_cons, not_or,
        not_or] at hfullName
      exact hfullName.2.2
  have hplacement := Declaration.readPlacement?_lines
    (fun _ => isRemark_of_mem_commentLines) hname []
  rw [List.append_nil] at hplacement
  rw [textLines_joinLines (List.ne_nil_of_mem hline) hlegible.unbroken_of_mem_declaration]
  refine ⟨hplacement, ?_⟩
  show (readEntries binding.declaredName binding.declaration.lines).map Prod.fst = _
  rw [hlegible.readEntries_lines, hlegible.map_fst_entries, names_declaredMembers,
    names_allMembers]

/-- The text of a conversion is cut into its lines, from which its arms are read. -/
theorem read_conversion {conversion : Conversion}
    (hconversion : conversion ∈ binding.conversions) :
    (textLines (joinLines conversion.lines)).head? = some conversion.opening ∧
      functionBranches conversion.name (textLines (joinLines conversion.lines)) =
        conversion.arms.map Arm.branch := by
  obtain ⟨line, hline, _⟩ := conversion.exists_brace
  have hread := conversion.functionBranches_lines []
  rw [List.append_nil] at hread
  rw [textLines_joinLines (List.ne_nil_of_mem hline)
    (hlegible.unbroken_of_mem_conversions hconversion), hread]
  exact ⟨rfl, rfl⟩

/-- The texts that are written for an enumeration agree. -/
theorem references (hfullName : '=' ∉ binding.enum.fullName.toList) :
    References binding.options binding.enum binding.placement
      (textLines (joinLines binding.declaration.lines))
      (textLines (joinLines (binding.fromJson binding.sentinel).lines))
      (textLines (joinLines (binding.toJson binding.sentinel).lines))
      (textLines (joinLines (binding.toNumber binding.sentinel).lines)) where
  placed := (hlegible.read_declaration hfullName).1
  declared := (hlegible.read_declaration hfullName).2
  returned := by
    intro hemits code
    have hread := (hlegible.read_conversion (fromJson_mem_conversions hemits)).2
    rw [← mem_returned?_fromJson_iff, ← hread]
    rfl
  encoded := by
    intro hemits
    have hread := (hlegible.read_conversion (toJson_mem_conversions hemits)).2
    have hlabels : ((binding.toJson binding.sentinel).arms.map Arm.branch).flatMap (·.labels) = _ :=
      flatMap_labels_arms (fun _ => rfl) (labels_toJsonRest binding)
    rw [← hlabels, ← hread]
    rfl
  numbered := by
    intro hemits
    have hread := (hlegible.read_conversion (toNumber_mem_conversions hemits)).2
    have hlabels : ((binding.toNumber binding.sentinel).arms.map Arm.branch).flatMap
        (·.labels) = _ :=
      flatMap_labels_arms (fun _ => rfl) (labels_toNumberRest binding)
    rw [← hlabels, ← hread]
    rfl
  fromJson_opening := by
    intro hemits
    rw [(hlegible.read_conversion (fromJson_mem_conversions hemits)).1, ← reference_eq]
    rfl
  toJson_opening := by
    intro hemits
    rw [(hlegible.read_conversion (toJson_mem_conversions hemits)).1, ← reference_eq]
    rfl
  toNumber_opening := by
    intro hemits
    rw [(hlegible.read_conversion (toNumber_mem_conversions hemits)).1, ← reference_eq]
    rfl

end Legible

end Binding

/-- A module is assembled from texts for each enumeration: one for the declaration and one for each
conversion that the options ask for. The declaration has a member for each value in order, and
behind them one for the sentinel exactly if that is asked for and no value takes its part. The
conversions have these members and no others, and all of them refer to the declaration by its own
name, behind that of its scope if it has one. -/
theorem conversions_refer_to_members (options : Options) (source : String)
    (enums : List EnumDescriptor)
    (hsentinel : Text.isIdentifier options.sentinelName.toList = true)
    (henums : ∀ enum ∈ enums, Text.isIdentifier enum.fullName.toList = true ∧
      (∀ value ∈ enum.values, Text.isIdentifier value.name.toList = true) ∧
      ∀ member ∈ members options enum, Text.isIdentifier member.name.toList = true) :
    (generateModule enums options source).outcome =
      .ok (assemble source (helpersFor options enums) (enums.flatMap (contribution options))) ∧
    ∀ enum ∈ enums, ∃ (declaration fromJson toJson toNumber : String) (placement : Placement),
      contribution options enum = declaration ::
        ((if options.emitsFromJson then [fromJson] else []) ++
          (if options.emitsToJson then [toJson] else []) ++
          if options.emitsToNumber then [toNumber] else []) ∧
      References options enum placement (textLines declaration) (textLines fromJson)
        (textLines toJson) (textLines toNumber) := by
  have hnamed : ∀ enum ∈ enums, enum.fullName ≠ "" := by
    intro enum henum hempty
    have hfullName := (henums enum henum).1
    rw [hempty] at hfullName
    cases hfullName
  refine ⟨outcome_generateModule hnamed source, ?_⟩
  intro enum henum
  obtain ⟨hfullName, hwireNames, hnames⟩ := henums enum henum
  have hlegible : (Binding.mk enum options).Legible :=
    ⟨unbroken_of_isIdentifier hfullName, hwireNames, hnames, fun _ => hsentinel⟩
  exact ⟨_, _, _, _, _, contribution_eq_cons ⟨enum, options⟩ (hnamed enum henum),
    hlegible.references (notMem_of_isIdentifier (by decide) hfullName)⟩

/-- With names split and shortened, the conversions of two enumerations refer to the members of
their own declarations, an alias and the added sentinel included. -/
theorem conversions_refer_to_members_signal :
    ∃ (declaration fromJson toJson toNumber : String) (placement : Placement),
      contribution { Binding.signal.options with stringEnums := true } Binding.signal.enum =
        [declaration, fromJson, toJson, toNumber] ∧
      readPlacement? (textLines declaration) = some placement ∧
      (readEntries placement.name (textLines declaration)).map Prod.fst =
        ["OFF", "STOP", "RED", "UNRECOGNIZED"] ∧
      labelsOf "rail_Road_SignalToNumber" (textLines toNumber) =
        ["OFF", "STOP", "RED", "UNRECOGNIZED"].map placement.member := by
  let options : Options := { Binding.signal.options with stringEnums := true }
  have hidentifiers : ∀ enum ∈ [Binding.trafficLight.enum, Binding.signal.enum],
      Text.isIdentifier enum.fullName.toList = true ∧
      (∀ value ∈ enum.values, Text.isIdentifier value.name.toList = true) ∧
      ∀ member ∈ members options enum, Text.isIdentifier member.name.toList = true := by
    decide +kernel
  have hnames : namesOfMembers options Binding.signal.enum =
      ["OFF", "STOP", "RED", "UNRECOGNIZED"] := by
    decide +kernel
  have hfunction : uncapitalize Binding.signal.enum.fullName ++ "ToNumber" =
      "rail_Road_SignalToNumber" := by
    decide +kernel
  obtain ⟨_, hagree⟩ := conversions_refer_to_members options "road"
    [Binding.trafficLight.enum, Binding.signal.enum] (by decide +kernel) hidentifiers
  obtain ⟨declaration, fromJson, toJson, toNumber, placement, htexts, hreferences⟩ :=
    hagree Binding.signal.enum (by simp)
  have hdeclared := hreferences.declared
  have hnumbered := hreferences.numbered rfl
  rw [hnames] at hdeclared hnumbered
  rw [hfunction] at hnumbered
  exact ⟨declaration, fromJson, toJson, toNumber, placement, htexts, hreferences.placed, hdeclared,
    hnumbered⟩

end EnumBindings
