import EnumBindings.Proofs.Output.Lines
import EnumBindings.Proofs.Script.Documentation

/-!
# Comments and code

What a schema says in comments is text that nobody has checked. It reaches the module in
documentation blocks only. A module that is written with comments, less its documentation blocks, is
the module that is written without comments, and this one depends on no comment.
-/

namespace EnumBindings

open Script

/-- A text without its documentation blocks. -/
def Comment.removeBlocks (text : String) : String :=
  joinLines (withoutBlocks false (textLines text))

/-- A value without what is said about it. -/
def EnumValue.withoutRemarks (value : EnumValue) : EnumValue :=
  { value with comment := none, deprecated := false }

/-- An enumeration without what is said about it and its values. -/
def EnumDescriptor.withoutRemarks (enum : EnumDescriptor) : EnumDescriptor :=
  { enum with
    comment := none
    deprecated := false
    values := enum.values.map EnumValue.withoutRemarks }

/-- A member without what is said about its value. -/
def Member.withoutRemarks (member : Member) : Member :=
  { member with value := member.value.withoutRemarks }

/-- Options with comments. -/
def Options.commented (options : Options) : Options :=
  { options with comments := true }

/-- Options without comments. -/
def Options.plain (options : Options) : Options :=
  { options with comments := false }

variable {options : Options} {source : String} {enum : EnumDescriptor}
  {enums others : List EnumDescriptor}

namespace Binding

/-- Without comments, the declaration is the commented one without its comments. -/
theorem declaration_plain (options : Options) (enum : EnumDescriptor) :
    (mk enum options.plain).declaration =
      (mk enum options.commented).declaration.withoutComments := by
  have hmembers : (mk enum options.plain).declaredMembers =
      (mk enum options.commented).declaredMembers.map fun member =>
        { member with comment := [] } := by
    unfold declaredMembers
    rw [List.map_append, List.map_map]
    refine congrArg₂ _ rfl ?_
    show (if (mk enum options.commented).sentinel.isAdded options.commented then _ else _) = _
    split <;> rfl
  unfold declaration Declaration.withoutComments
  rw [hmembers]
  rfl

/-- Comments do not show in conversions. -/
theorem conversions_plain (options : Options) (enum : EnumDescriptor) :
    (mk enum options.plain).conversions = (mk enum options.commented).conversions :=
  rfl

/-- Without its documentation blocks, the code of an enumeration is the code without comments. -/
theorem documents_code (hlegible : (mk enum options.commented).Legible) :
    Comment.Documents (mk enum options.commented).code (mk enum options.plain).code := by
  have hcomment {comment : Option String} {deprecated : Bool} {lead : String}
      (hlead : Comment.IsLead lead) :
      Comment.Documents (commentLines options.commented comment deprecated lead) [] :=
    Comment.documents_block hlead
  have hdeclaration : Comment.Documents (mk enum options.commented).declaration.lines
      (mk enum options.plain).declaration.lines := by
    rw [declaration_plain]
    apply Declaration.documents_lines (hcomment isLead_empty)
    · intro declared hdeclared
      rcases exists_member_or_eq_declareSentinel hdeclared with
        ⟨member, hmember, rfl⟩ | ⟨_, rfl⟩
      · exact hcomment (isLead_memberName (hlegible.names member hmember))
      · exact ⟨rfl, rfl⟩
    · exact fun _ hdeclared => hlegible.isIdentifier_of_mem_declaredMembers hdeclared
  rw [code_eq, code_eq, conversions_plain]
  refine hdeclaration.append (Comment.Documents.of_plain ?_)
  intro line hline
  obtain ⟨conversion, _, hline⟩ := List.mem_flatMap.mp hline
  rcases List.mem_cons.mp hline with rfl | hline
  · decide
  · exact conversion.opensBlock_of_mem_lines line hline

/-- Members are named alike, whatever is said about their values. -/
theorem members_withoutRemarks (enum : EnumDescriptor) (options : Options) :
    (mk enum.withoutRemarks options).members =
      (mk enum options).members.map Member.withoutRemarks := by
  unfold members EnumBindings.members EnumDescriptor.withoutRemarks
  rw [List.map_map, List.map_map]
  rfl

/-- The sentinel is found by codes. -/
theorem sentinel_withoutRemarks (enum : EnumDescriptor) (options : Options) :
    (mk enum.withoutRemarks options).sentinel = (mk enum options).sentinel := by
  have hfind : (mk enum.withoutRemarks options).members.find? (·.code = options.sentinelCode) =
      ((mk enum options).members.find? (·.code = options.sentinelCode)).map
        Member.withoutRemarks := by
    rw [members_withoutRemarks, List.find?_map]
    rfl
  show Sentinel.find options.sentinelCode (mk enum.withoutRemarks options).members =
    Sentinel.find options.sentinelCode (mk enum options).members
  unfold Sentinel.find
  rw [hfind]
  cases (mk enum options).members.find? (·.code = options.sentinelCode) <;> rfl

/-- Without comments, the fragments do not depend on what is said about an enumeration. -/
theorem fragments_withoutRemarks (enum : EnumDescriptor) (options : Options) :
    (mk enum.withoutRemarks options.plain).fragments = (mk enum options.plain).fragments := by
  have harms {α : Type} (arm : Member → α) (harm : ∀ member : Member,
      arm member.withoutRemarks = arm member) :
      (mk enum.withoutRemarks options.plain).members.map arm =
        (mk enum options.plain).members.map arm := by
    rw [members_withoutRemarks, List.map_map]
    exact List.map_congr_left fun member _ => harm member
  have hconversions : (mk enum.withoutRemarks options.plain).conversions =
      (mk enum options.plain).conversions := by
    unfold conversions fromJson toJson toNumber
    rw [sentinel_withoutRemarks, harms _ fun _ => rfl, harms _ fun _ => rfl,
      harms _ fun _ => rfl]
    rfl
  have hdeclaration : (mk enum.withoutRemarks options.plain).declaration =
      (mk enum options.plain).declaration := by
    unfold declaration declaredMembers
    rw [sentinel_withoutRemarks, harms _ fun _ => rfl]
    rfl
  have hfragment : (mk enum.withoutRemarks options.plain).declarationFragment =
      (mk enum options.plain).declarationFragment := by
    unfold declarationFragment reportedCode?
    rw [hdeclaration, sentinel_withoutRemarks]
  rw [fragments, fragments, hconversions, hfragment]

end Binding

/-- Without comments, writing enumerations does not depend on what is said about them. -/
theorem outcome_addEnums_withoutRemarks (options : Options) (draft : Draft)
    (enums : List EnumDescriptor) :
    (Draft.addEnums options.plain draft (enums.map EnumDescriptor.withoutRemarks)).outcome =
      (Draft.addEnums options.plain draft enums).outcome := by
  induction enums generalizing draft with
  | nil => rfl
  | cons enum rest ih =>
    have hfirst : (draft.addEnum options.plain enum.withoutRemarks).outcome =
        (draft.addEnum options.plain enum).outcome := by
      by_cases hname : enum.fullName = ""
      · rw [Binding.outcome_addEnum_of_unnamed hname,
          @Binding.outcome_addEnum_of_unnamed enum.withoutRemarks _ _ hname]
        rfl
      · rw [Binding.outcome_addEnum (enum.writable_unlimited hname _),
          Binding.outcome_addEnum (enum.withoutRemarks.writable_unlimited hname _),
          Binding.fragments_withoutRemarks]
    rw [List.map_cons, outcome_addEnums_cons, outcome_addEnums_cons, hfirst]
    cases (draft.addEnum options.plain enum).outcome with
    | error error => rfl
    | ok next => exact ih next

/-- Without its documentation blocks, a module has the lines of the module without comments. -/
theorem documents_moduleLines (hnamed : ∀ enum ∈ enums, enum.fullName ≠ "")
    (henums : ∀ enum ∈ enums, (Binding.mk enum options.commented).Legible) :
    Comment.Documents (moduleLines options.commented source enums)
      (moduleLines options.plain source enums) := by
  have hhelpers : helperLines options.plain enums = helperLines options.commented enums := by
    have hneeds : (enums.any fun enum => (Draft.alone options.plain enum).needsGlobalObject) =
        enums.any fun enum => (Draft.alone options.commented enum).needsGlobalObject := by
      rw [Bool.eq_iff_iff, List.any_eq_true, List.any_eq_true]
      refine exists_congr fun enum => and_congr_right fun henum => ?_
      rw [Draft.alone_eq (hnamed enum henum), Draft.alone_eq (hnamed enum henum),
        Draft.needsGlobalObject_addAll, Draft.needsGlobalObject_addAll]
      rfl
    unfold helperLines
    rw [hneeds]
  have hheading : ∀ line ∈ headingLines source, Comment.opensBlock line = false := by
    intro line hline
    simp only [headingLines, List.mem_cons, List.not_mem_nil, or_false] at hline
    rcases hline with rfl | rfl | rfl | rfl
    · decide
    · rw [Comment.opensBlock, unindented_of_head? (by simp), String.toList_append]
      rfl
    · decide
    · decide
  have hhelper : ∀ line ∈ (helperLines options.commented enums).flatMap ("" :: ·),
      Comment.opensBlock line = false := by
    have hlines : ∀ line ∈ "" :: Helper.globalObject.lines, Comment.opensBlock line = false := by
      decide +kernel
    intro line hline
    unfold helperLines at hline
    split at hline
    · exact hlines line (by simpa using hline)
    · cases hline
  have hempty : ∀ line ∈ [""], Comment.opensBlock line = false := by decide
  rw [moduleLines, moduleLines, hhelpers]
  refine ((Comment.Documents.of_plain hheading).append (Comment.Documents.of_plain hhelper)).append
    (Comment.Documents.flatMap ?_)
  intro enum henum
  exact (Comment.Documents.of_plain hempty).append (Binding.documents_code (henums enum henum))

/-- Without its documentation blocks, a module is the module without comments. -/
theorem removeBlocks_module (hsource : Unbroken source)
    (hnamed : ∀ enum ∈ enums, enum.fullName ≠ "")
    (henums : ∀ enum ∈ enums, (Binding.mk enum options.commented).Legible) :
    Comment.removeBlocks (joinLines (moduleLines options.commented source enums ++ [""])) =
      joinLines (moduleLines options.plain source enums ++ [""]) := by
  have hend : Comment.Documents [""] [""] := Comment.Documents.of_plain (by decide)
  have hlines : Comment.Documents (moduleLines options.commented source enums)
      (moduleLines options.plain source enums) :=
    documents_moduleLines hnamed henums
  have hmodule := hlines.append hend
  rw [Comment.removeBlocks, textLines_module hsource henums, hmodule.kept]

/-- With names that are identifiers, the module with comments less its documentation blocks is the
module without comments. Without comments nothing that is said about enumerations and values has any
effect, whatever their names are. -/
theorem generateModule_comments (options : Options) (source : String) :
    (∀ enums : List EnumDescriptor, Unbroken source →
      Text.isIdentifier options.sentinelName.toList = true →
      (∀ enum ∈ enums, Text.isIdentifier enum.fullName.toList = true ∧
        (∀ value ∈ enum.values, Text.isIdentifier value.name.toList = true) ∧
        ∀ member ∈ members options enum, Text.isIdentifier member.name.toList = true) →
      ∃ commented plain,
        (generateModule enums { options with comments := true } source).outcome = .ok commented ∧
        (generateModule enums { options with comments := false } source).outcome = .ok plain ∧
        Comment.removeBlocks commented = plain) ∧
    ∀ enums others : List EnumDescriptor,
      enums.map EnumDescriptor.withoutRemarks = others.map EnumDescriptor.withoutRemarks →
      (generateModule enums { options with comments := false } source).outcome =
        (generateModule others { options with comments := false } source).outcome := by
  constructor
  · intro enums hsource hsentinel henums
    have hnamed : ∀ enum ∈ enums, enum.fullName ≠ "" := by
      intro enum henum hempty
      have hfullName := (henums enum henum).1
      rw [hempty] at hfullName
      cases hfullName
    have hlegible : ∀ enum ∈ enums, (Binding.mk enum options.commented).Legible := by
      intro enum henum
      obtain ⟨hfullName, hwireNames, hnames⟩ := henums enum henum
      exact ⟨unbroken_of_isIdentifier hfullName, hwireNames, hnames, fun _ => hsentinel⟩
    exact ⟨_, _, outcome_generateModule_lines hnamed, outcome_generateModule_lines hnamed,
      removeBlocks_module hsource hnamed hlegible⟩
  · intro enums others hsame
    have hwritten := outcome_addEnums_withoutRemarks options {} enums
    rw [hsame, outcome_addEnums_withoutRemarks options {} others] at hwritten
    show (Draft.addEnums options.plain {} enums >>= _).outcome =
      (Draft.addEnums options.plain {} others >>= _).outcome
    rw [Reported.outcome_bind, Reported.outcome_bind, hwritten]

/-- An enumeration whose comments imitate code and try to close their blocks early. -/
def remarkedLight : EnumDescriptor :=
  { name := "Light"
    fullName := "Road_Light"
    comment := some "export enum Light \x7b\u2028*/ GREEN = 7,\n\x7d"
    values := [{ name := "RED", number := 0, comment := some "**//", deprecated := true },
      { name := "STOP", number := 0, comment := some "  /** nested */\n\n  */" }] }

/-- Such comments are removed as a whole, and without them it makes no difference what they say. -/
theorem generateModule_comments_remarkedLight :
    (∃ commented plain,
      (generateModule [remarkedLight] { comments := true } "road").outcome = .ok commented ∧
      (generateModule [remarkedLight] { comments := false } "road").outcome = .ok plain ∧
      Comment.removeBlocks commented = plain) ∧
    (generateModule [remarkedLight] { comments := false } "road").outcome =
      (generateModule [remarkedLight.withoutRemarks] { comments := false } "road").outcome := by
  have hidentifiers : ∀ enum ∈ [remarkedLight], Text.isIdentifier enum.fullName.toList = true ∧
      (∀ value ∈ enum.values, Text.isIdentifier value.name.toList = true) ∧
      ∀ member ∈ members {} enum, Text.isIdentifier member.name.toList = true := by
    decide +kernel
  obtain ⟨hremoved, hindependent⟩ := generateModule_comments {} "road"
  exact ⟨hremoved [remarkedLight] (by decide) (by decide +kernel) hidentifiers,
    hindependent [remarkedLight] [remarkedLight.withoutRemarks] rfl⟩

end EnumBindings
