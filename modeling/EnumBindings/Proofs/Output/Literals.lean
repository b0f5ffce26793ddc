import EnumBindings.Proofs.Binding.Wire
import EnumBindings.Proofs.Options.LastEntry
import EnumBindings.Proofs.Output.Failures
import EnumBindings.Proofs.Output.References
import EnumBindings.Proofs.Script.StringLiteral

/-!
# What the literals of a module denote

Names on the wire are written between quotes, in the labels of the conversion from JSON, in the
results of the conversion to JSON and as the values of members. Nothing in them is escaped, and a
document may give any name that is not empty. For whatever is loaded, the literals denote the names
in the document exactly if none of these names has a quote, a backslash or a line break in it.
-/

namespace EnumBindings

open Script

/-- Whether code begins like a string literal. -/
def Script.isQuoted (code : String) : Bool :=
  code.toList.head? = some '"'

/-- The names that an enumeration has on the wire: those of its values in the order of the schema,
and that of the sentinel if it is asked for and no value has its code. -/
def namesOnWire (options : Options) (enum : EnumDescriptor) : List String :=
  enum.values.map (·.name) ++
    if options.sentinel = true ∧ ∀ value ∈ enum.values, value.number ≠ options.sentinelCode then
      [options.sentinelName]
    else []

/-- The names that the conversion to JSON gives, in order: one for each value, and one for
everything else if there is a sentinel. -/
def namesInJson (options : Options) (enum : EnumDescriptor) : List String :=
  enum.values.map (·.name) ++
    if options.sentinel then [(sentinelValue options enum).name] else []

/-- A document with one enumeration, which has values with the given names. -/
def namedDocument (names : List String) : Json :=
  .object [("enums", .list [.object [("name", .text "E"),
    ("values", .list (names.zipIdx.map fun (name, number) =>
      .object [("name", .text name), ("number", .int number)]))]])]

/-- The enumeration in that document. -/
def namedEnum (names : List String) : EnumDescriptor where
  name := "E"
  fullName := "E"
  values := names.zipIdx.map fun (name, number) => { name := name, number := number }

/-- Whether names on the wire are written into the code at all. -/
def Options.writesNames (options : Options) : Bool :=
  options.emitsFromJson || options.emitsToJson && !options.numericJson || options.stringEnums

namespace Binding

/-- The string literals in the code, in order and with no other ones between them, denote the names
that they are written for. -/
structure LiteralsDenote (binding : Binding) : Prop where
  /-- The labels of the conversion from JSON. -/
  labels : binding.options.emitsFromJson = true →
    List.Forall₂ Denotes
      ((labelsOf (binding.functionName "FromJSON") binding.code).filter isQuoted)
      (namesOnWire binding.options binding.enum)
  /-- The results of the conversion to JSON. -/
  results : binding.options.emitsToJson = true →
    List.Forall₂ Denotes
      ((returnsOf (binding.functionName "ToJSON") binding.code).filter isQuoted)
      (if binding.options.numericJson then [] else namesInJson binding.options binding.enum)
  /-- The values of the declared members. -/
  values : List.Forall₂ Denotes
    ((binding.declaration.members.map (·.value.code)).filter isQuoted)
    (if binding.options.stringEnums then namesOnWire binding.options binding.enum else [])

end Binding

/-- A name between quotes begins like a literal. -/
theorem Script.isQuoted_quoted (name : String) : isQuoted (quoted name) = true := by
  simp [isQuoted, quoted]

/-- The spelling of a number does not begin like a literal. -/
theorem Script.isQuoted_number (value : Int) : isQuoted (Expression.number value).code = false := by
  refine decide_eq_false fun hhead => ?_
  exact absurd (Text.eq_minus_or_isDigit_of_mem_toString (List.mem_of_head? hhead)) (by decide)

/-- Where names are written for things, all literals are names between quotes; where numbers are
written, there is no literal. -/
theorem filter_isQuoted_map {α : Type} (items : List α) (numeric : Bool) (name : α → String)
    (code : α → Int) :
    (items.map fun item => (if numeric then Expression.number (code item)
        else .text (name item)).code).filter isQuoted =
      if numeric then [] else (items.map name).map quoted := by
  cases numeric with
  | true =>
    simp only [if_true, List.filter_eq_nil_iff, List.forall_mem_map]
    intro item _
    rw [isQuoted_number]
    decide
  | false =>
    simp only [Bool.false_eq_true, if_false, List.map_map]
    refine List.filter_eq_self.mpr ?_
    rw [List.forall_mem_map]
    exact fun item _ => isQuoted_quoted (name item)

/-- Names between quotes denote the names exactly if all characters in them stand for
themselves. -/
theorem forall₂_denotes_quoted_iff {names : List String} :
    List.Forall₂ Denotes (names.map quoted) names ↔
      ∀ name ∈ names, name.toList.all isPlain = true := by
  rw [List.forall₂_map_left_iff, List.forall₂_same]
  exact forall₂_congr fun _ _ => denotes_quoted_iff

namespace Binding

variable (binding : Binding)

/-- The names of all members on the wire. -/
theorem wireNames_allMembers :
    binding.allMembers.map (·.wireName) = namesOnWire binding.options binding.enum := by
  unfold allMembers namesOnWire
  rw [List.map_append, wireNames_members]
  by_cases hadded : binding.sentinel.isAdded binding.options = true
  · rw [if_pos hadded, if_pos ((isAdded_iff_forall_values binding).mp hadded)]
    rfl
  · rw [if_neg hadded, if_neg (mt (isAdded_iff_forall_values binding).mpr hadded)]
    rfl

/-- The names in JSON are those of the members and of the one that everything else leads to. -/
theorem wireNames_fallback :
    (binding.members ++ binding.fallback.toList).map (·.wireName) =
      namesInJson binding.options binding.enum := by
  have hsentinel : binding.sentinelMember.wireName =
      (sentinelValue binding.options binding.enum).name :=
    congrArg EnumValue.name (value_sentinelMember binding)
  rw [List.map_append, wireNames_members, namesInJson]
  cases hon : binding.options.sentinel with
  | false => rw [fallback_eq_none hon]; rfl
  | true => rw [fallback_eq_some hon, if_pos rfl, ← hsentinel]; rfl

/-- The last arm of the conversion from JSON has a literal for the sentinel exactly if that is
added. -/
theorem filter_isQuoted_fromJsonRest :
    (binding.fromJsonRest binding.sentinel).branch.labels.filter isQuoted =
      if binding.sentinel.isAdded binding.options then [quoted binding.options.sentinelName]
      else [] := by
  cases hon : binding.options.sentinel with
  | false =>
    rw [fromJsonRest_eq_refusal hon, if_neg (by simp [Sentinel.isAdded, hon])]
    rfl
  | true =>
    cases hsentinel : binding.sentinel with
    | absent =>
      have hlabels : (binding.fromJsonRest .absent).branch.labels =
          [(Expression.number binding.options.sentinelCode).code,
            quoted binding.options.sentinelName] := by
        simp only [fromJsonRest, hon, if_true]
        rfl
      rw [hlabels, List.filter_cons_of_neg (by simp [isQuoted_number]),
        List.filter_cons_of_pos (isQuoted_quoted _), List.filter_nil,
        if_pos (by simp [Sentinel.isAdded, Sentinel.isTaken, hon])]
    | taken name wireName =>
      rw [if_neg (by simp [Sentinel.isAdded, Sentinel.isTaken])]
      simp only [fromJsonRest, hon, if_true]
      rfl

/-- The literals in the labels of the conversion from JSON. -/
theorem filter_isQuoted_labels (hemits : binding.options.emitsFromJson = true) :
    (labelsOf (binding.functionName "FromJSON") binding.code).filter isQuoted =
      (namesOnWire binding.options binding.enum).map quoted := by
  have hmember (member : Member) :
      (binding.fromJsonArm member).branch.labels.filter isQuoted = [quoted member.wireName] := by
    have hlabels : (binding.fromJsonArm member).branch.labels =
        [(Expression.number member.code).code, quoted member.wireName] := rfl
    rw [hlabels, List.filter_cons_of_neg (by simp [isQuoted_number]),
      List.filter_cons_of_pos (isQuoted_quoted _), List.filter_nil]
  have hmembers : ((binding.members.map binding.fromJsonArm).map Arm.branch).flatMap
      (fun branch => branch.labels.filter isQuoted) =
        (binding.members.map (·.wireName)).map quoted := by
    rw [List.map_map, List.flatMap_map, List.map_map, List.map_eq_flatMap]
    exact List.flatMap_congr fun member _ => hmember member
  rw [labelsOf, functionBranches_fromJson hemits, List.filter_flatMap, List.map_append,
    List.flatMap_append, hmembers, List.map_singleton, List.flatMap_singleton,
    filter_isQuoted_fromJsonRest, ← wireNames_allMembers, allMembers, List.map_append,
    List.map_append]
  split <;> rfl

/-- The literals in the results of the conversion to JSON. -/
theorem filter_isQuoted_returns (hemits : binding.options.emitsToJson = true) :
    (returnsOf (binding.functionName "ToJSON") binding.code).filter isQuoted =
      if binding.options.numericJson then []
      else (namesInJson binding.options binding.enum).map quoted := by
  have hrest : (binding.toJsonRest binding.sentinel).branch.outcome.returned? =
      binding.fallback.map fun member =>
        (jsonValue binding.options member.wireName member.code).code := by
    rw [(branch_toJsonRest binding).2]
    cases binding.fallback <;> rfl
  have hreturns : returnsOf (binding.functionName "ToJSON") binding.code =
      (binding.members ++ binding.fallback.toList).map fun member =>
        (jsonValue binding.options member.wireName member.code).code := by
    rw [returnsOf, functionBranches_toJson hemits]
    exact filterMap_returned?_arms (fun _ => rfl) hrest
  rw [hreturns, ← wireNames_fallback]
  exact filter_isQuoted_map _ _ _ _

/-- Nothing is put behind a line when it is indented. -/
theorem suffix_indentLine (level : Int) (line : String) :
    line.toList <:+ (indentLine level line).toList := by
  unfold indentLine
  split
  · exact List.suffix_rfl
  · rw [String.toList_append]
    exact List.suffix_append _ _

/-- The value of a declared member stands in a line of the code, behind the name of the member. -/
theorem exists_memberLine_mem_code {declared : DeclaredMember}
    (hdeclared : declared ∈ binding.declaration.members) :
    ∃ line ∈ binding.code,
      (binding.representation.memberLine declared.name declared.value.code).toList <:+
        line.toList := by
  let memberLine := binding.representation.memberLine declared.name declared.value.code
  have hmember : memberLine ∈ declared.lines binding.declaration.representation :=
    List.mem_append_right _ (List.mem_singleton_self _)
  have hinner : indentLine 1 memberLine ∈ binding.declaration.innerLines := by
    rw [Declaration.innerLines, List.mem_append, List.mem_cons]
    exact Or.inl (Or.inr (List.mem_map_of_mem (List.mem_flatMap_of_mem hdeclared hmember)))
  rw [code_eq]
  cases hscope : binding.declaration.scope with
  | none =>
    refine ⟨indentLine 1 memberLine, List.mem_append_left _ ?_, suffix_indentLine 1 memberLine⟩
    rw [Declaration.lines, hscope]
    exact List.mem_append_right _ hinner
  | some scope =>
    refine ⟨indentLine 1 (indentLine 1 memberLine), List.mem_append_left _ ?_,
      (suffix_indentLine 1 memberLine).trans (suffix_indentLine 1 _)⟩
    rw [Declaration.lines, hscope]
    refine List.mem_append_right _ (List.mem_append_left _ (List.mem_cons_of_mem _ ?_))
    exact List.mem_map_of_mem hinner

/-- The literals that are the values of members. -/
theorem filter_isQuoted_values :
    (binding.declaration.members.map (·.value.code)).filter isQuoted =
      if binding.options.stringEnums then (namesOnWire binding.options binding.enum).map quoted
      else [] := by
  have hvalues : binding.declaration.members.map (·.value.code) =
      binding.allMembers.map fun member =>
        (heldValue binding.options member.wireName member.code).code := by
    show binding.declaredMembers.map _ = _
    rw [declaredMembers, allMembers, List.map_append, List.map_append, List.map_map]
    split <;> rfl
  have hheld (member : Member) : heldValue binding.options member.wireName member.code =
      if !binding.options.stringEnums then .number member.code else .text member.wireName := by
    rw [heldValue]
    cases binding.options.stringEnums <;> rfl
  rw [hvalues, ← wireNames_allMembers]
  simp only [hheld]
  rw [filter_isQuoted_map]
  cases binding.options.stringEnums <;> rfl

variable {binding}

/-- The conversion to JSON gives no other names than there are on the wire. -/
theorem mem_namesInJson_iff {options : Options} {enum : EnumDescriptor} {name : String} :
    name ∈ namesInJson options enum ↔ name ∈ namesOnWire options enum := by
  rw [namesInJson, namesOnWire, List.mem_append, List.mem_append]
  cases hon : options.sentinel with
  | false => simp
  | true =>
    by_cases hfree : ∀ value ∈ enum.values, value.number ≠ options.sentinelCode
    · have hnone : enum.values.find? (·.number = options.sentinelCode) = none := by
        simpa using hfree
      rw [if_pos rfl, if_pos ⟨rfl, hfree⟩, sentinelValue, hnone, Option.getD_none]
    · rw [if_pos rfl, if_neg (fun h => hfree h.2)]
      have hvalue : sentinelValue options enum ∈ enum.values := by
        rw [sentinelValue]
        cases hfind : enum.values.find? (·.number = options.sentinelCode) with
        | none => exact absurd (by simpa using hfind) hfree
        | some value => exact List.mem_of_find?_eq_some hfind
      constructor
      · rintro (hname | hname)
        · exact Or.inl hname
        · rw [List.mem_singleton.mp hname]
          exact Or.inl (List.mem_map_of_mem hvalue)
      · rintro (hname | hname)
        · exact Or.inl hname
        · cases hname

/-- The literals in the code of an enumeration denote the names that they are written for exactly if
none is written, or all characters of the names stand for themselves. -/
theorem literalsDenote_iff (binding : Binding) :
    binding.LiteralsDenote ↔ (binding.options.writesNames = true →
      ∀ name ∈ namesOnWire binding.options binding.enum, name.toList.all isPlain = true) := by
  have hwrites : binding.options.writesNames = true ↔
      binding.options.emitsFromJson = true ∨
        (binding.options.emitsToJson = true ∧ binding.options.numericJson = false) ∨
        binding.options.stringEnums = true := by
    simp [Options.writesNames, or_assoc]
  have hnames : (∀ name ∈ namesInJson binding.options binding.enum,
      name.toList.all isPlain = true) ↔
        ∀ name ∈ namesOnWire binding.options binding.enum, name.toList.all isPlain = true := by
    simp only [mem_namesInJson_iff]
  constructor
  · rintro ⟨hlabels, hresults, hvalues⟩ hwritten
    rcases hwrites.mp hwritten with hemits | ⟨hemits, htext⟩ | hstring
    · have hdenote := hlabels hemits
      rw [filter_isQuoted_labels binding hemits] at hdenote
      exact forall₂_denotes_quoted_iff.mp hdenote
    · have hdenote := hresults hemits
      rw [filter_isQuoted_returns binding hemits, htext] at hdenote
      exact hnames.mp (forall₂_denotes_quoted_iff.mp hdenote)
    · rw [filter_isQuoted_values, if_pos hstring, if_pos hstring] at hvalues
      exact forall₂_denotes_quoted_iff.mp hvalues
  · intro hplain
    refine ⟨fun hemits => ?_, fun hemits => ?_, ?_⟩
    · rw [filter_isQuoted_labels binding hemits, forall₂_denotes_quoted_iff]
      exact hplain (hwrites.mpr (Or.inl hemits))
    · rw [filter_isQuoted_returns binding hemits]
      cases hnumeric : binding.options.numericJson with
      | true => exact .nil
      | false =>
        have hall := hplain (hwrites.mpr (Or.inr (Or.inl ⟨hemits, hnumeric⟩)))
        exact forall₂_denotes_quoted_iff.mpr (hnames.mpr hall)
    · rw [filter_isQuoted_values]
      cases hstring : binding.options.stringEnums with
      | false => exact .nil
      | true =>
        have hall := hplain (hwrites.mpr (Or.inr (Or.inr hstring)))
        exact forall₂_denotes_quoted_iff.mpr hall

end Binding

variable {content : Content} {enums : List EnumDescriptor} {parameter : Option String}
  {base options : Options}

/-- Literals denote the names of the document exactly if no name needs an escape sequence. What is
loaded is described by the document that is handed in, and a module is written for it, line by line.
The values of members stand in its lines. The literals for an enumeration denote the names of its
values in order, and that of the sentinel, exactly if none is written or all characters of these
names stand for themselves. Those of the sentinel do, if its name is an identifier in the options
that the option string extends. -/
theorem literals_denote_iff (source : String)
    (hload : (loadDescriptors content).outcome = .ok enums)
    (hparse : (Options.parse parameter base).outcome = .ok options) :
    (∃ document, content.Holds document ∧ DescribesDocument document enums) ∧
      (generateModule enums options source).outcome =
        .ok (joinLines (moduleLines options source enums ++ [""])) ∧
      (Text.isIdentifier base.sentinelName.toList = true →
        options.sentinelName.toList.all isPlain = true) ∧
      ∀ enum ∈ enums,
        (∀ declared ∈ (Binding.mk enum options).declaration.members,
          ∃ line ∈ (Binding.mk enum options).code,
            ((Binding.mk enum options).representation.memberLine declared.name
              declared.value.code).toList <:+ line.toList) ∧
        ((Binding.mk enum options).LiteralsDenote ↔ (options.writesNames = true →
          ∀ name ∈ namesOnWire options enum, name.toList.all isPlain = true)) := by
  have hnamed := named_of_loadDescriptors hload
  refine ⟨exists_describesDocument hload, ?_, ?_, fun enum _ =>
    ⟨fun _ => Binding.exists_memberLine_mem_code _, Binding.literalsDenote_iff _⟩⟩
  · exact outcome_generateModule_lines fun enum henum => (hnamed enum henum).fullName
  · intro hbase
    rcases sentinelName_of_parse hparse with hname | hname
    · rw [hname]
      exact all_isPlain_of_isIdentifier hbase
    · exact all_isPlain_of_isIdentifier hname

/-- Names that are no identifiers may still be denoted by their literals. -/
theorem literals_denote_blank :
    (loadDescriptors (.decoded (namedDocument ["a b", "😀"]))).outcome =
        .ok [namedEnum ["a b", "😀"]] ∧
      (Options.parse (some "stringEnums") {}).outcome = .ok { stringEnums := true } ∧
      (Binding.mk (namedEnum ["a b", "😀"]) { stringEnums := true }).LiteralsDenote := by
  have hload : (loadDescriptors (.decoded (namedDocument ["a b", "😀"]))).outcome =
      .ok [namedEnum ["a b", "😀"]] := rfl
  have hparse : (Options.parse (some "stringEnums") {}).outcome = .ok { stringEnums := true } := rfl
  obtain ⟨_, _, _, hdenote⟩ := literals_denote_iff "" hload hparse
  obtain ⟨_, hiff⟩ := hdenote _ (List.mem_singleton_self _)
  exact ⟨hload, hparse, hiff.mpr fun _ => by decide +kernel⟩

/-- A name with a quote is cut short by its literal, which is not complete then, and a name with a
backslash is written as a literal for another name. -/
theorem not_literalsDenote_quote :
    (loadDescriptors (.decoded (namedDocument ["A\"B", "A\\B"]))).outcome =
        .ok [namedEnum ["A\"B", "A\\B"]] ∧
      (Options.parse none {}).outcome = .ok {} ∧
      (labelsOf "eFromJSON" (Binding.mk (namedEnum ["A\"B", "A\\B"]) {}).code).filter isQuoted =
        ["\"A\"B\"", "\"A\\B\"", "\"UNRECOGNIZED\""] ∧
      ¬Denotes "\"A\"B\"" "A\"B" ∧
      ReadsString "\"A\"B\":".toList (codeUnits "A".toList) "B\":".toList ∧
      ¬Denotes "\"A\\B\"" "A\\B" ∧
      ReadsString "\"A\\B\":".toList (codeUnits "AB".toList) ":".toList ∧
      ¬(Binding.mk (namedEnum ["A\"B", "A\\B"]) {}).LiteralsDenote := by
  have hquote : ¬Denotes "\"A\"B\"" "A\"B" := by
    have hspelling : "\"A\"B\"" = quoted "A\"B" := by decide +kernel
    rw [hspelling, denotes_quoted_iff]
    decide +kernel
  have hbackslash : ¬Denotes "\"A\\B\"" "A\\B" := by
    have hspelling : "\"A\\B\"" = quoted "A\\B" := by decide +kernel
    rw [hspelling, denotes_quoted_iff]
    decide +kernel
  refine ⟨rfl, rfl, ?_, hquote, ?_, hbackslash, ?_, ?_⟩
  · have hlabels := Binding.filter_isQuoted_labels ⟨namedEnum ["A\"B", "A\\B"], {}⟩ rfl
    have hname : (Binding.mk (namedEnum ["A\"B", "A\\B"]) {}).functionName "FromJSON" =
        "eFromJSON" := by
      decide +kernel
    rw [hname] at hlabels
    rw [hlabels]
    decide +kernel
  · have hletter : readElement? "A\"B\":".toList = some ([65], "\"B\":".toList) := rfl
    exact ⟨_, rfl, .element hletter .closed⟩
  · have hletter : readElement? "A\\B\":".toList = some ([65], "\\B\":".toList) := rfl
    have hescape : readElement? "\\B\":".toList = some ([66], "\":".toList) := rfl
    exact ⟨_, rfl, .element hletter (.element hescape .closed)⟩
  · rw [Binding.literalsDenote_iff]
    intro hplain
    exact absurd (hplain rfl) (by decide +kernel)

end EnumBindings
