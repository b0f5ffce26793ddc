import EnumBindings.Proofs.Binding.Refusal
import EnumBindings.Proofs.Output.Lines
import EnumBindings.Proofs.Script.LineKinds
import Mathlib.Data.List.Count

/-!
# Where the helper is used

A module has the helper for global objects if some conversion in it throws. What is written for an
enumeration never reads like the line that defines the helper, so the helper is found in the text of
a module once or not at all. The helper stands once in a module, before all enumerations, exactly if
some conversion throws; and what throws is the default arm of the conversions between members and
JSON.
-/

namespace EnumBindings

open Script Binding

/-- An enumeration without comments whose names are identifiers. -/
structure EnumDescriptor.Bare (enum : EnumDescriptor) : Prop where
  fullName : Text.isIdentifier enum.fullName.toList = true
  names : ∀ value ∈ enum.values, Text.isIdentifier value.name.toList = true
  comment : enum.comment = none
  comments : ∀ value ∈ enum.values, value.comment = none

/-- A text with a statement that throws. -/
def HasThrow (text : String) : Prop :=
  ∃ line ∈ textLines text, IsThrow line

/-- Some conversion that is written for the enumerations throws. The first text that is written for
an enumeration is its declaration. -/
def SomeConversionThrows (options : Options) (enums : List EnumDescriptor) : Prop :=
  ∃ enum ∈ enums, ∃ text ∈ (contribution options enum).tail, HasThrow text

/-- The texts that are written for an enumeration: a declaration and the conversions that are asked
for. Where something throws, the conversions between members and JSON throw by default and only
there. The conversion to numbers never throws. -/
structure ThrowsOnlyByDefault (throws : Prop) (options : Options) (enum : EnumDescriptor)
    (declaration fromJson toJson toNumber : String) : Prop where
  contribution : contribution options enum = declaration ::
    ((if options.emitsFromJson then [fromJson] else []) ++
      (if options.emitsToJson then [toJson] else []) ++
      if options.emitsToNumber then [toNumber] else [])
  fromJson : throws → options.emitsFromJson = true →
    ThrowsByDefault (functionBranches
      ((Binding.mk enum options).functionName "FromJSON") (textLines fromJson))
  toJson : throws → options.emitsToJson = true →
    ThrowsByDefault (functionBranches
      ((Binding.mk enum options).functionName "ToJSON") (textLines toJson))
  toNumber : options.emitsToNumber = true → ¬ HasThrow toNumber ∧ ∃ line ∈ textLines toNumber,
    opensFunction ((Binding.mk enum options).functionName "ToNumber") line = true

/-- The line in which the helper is defined. -/
def globalObjectLine : String :=
  "const " ++ globalObjectName ++ ": any = (() => \x7b"

namespace Text

variable {separator : Char} {mark start rest before behind : List Char}

/-- A piece within a part of a text is a piece of the text. -/
theorem pieces_append_mark (hmark : separator ∉ mark) (before start rest behind : List Char) :
    pieces separator (before ++ (start ++ separator :: (mark ++ separator :: rest)) ++ behind) =
      pieces separator (before ++ start) ++ mark :: pieces separator (rest ++ behind) := by
  have hshape : before ++ (start ++ separator :: (mark ++ separator :: rest)) ++ behind =
      (before ++ start) ++ separator :: (mark ++ separator :: (rest ++ behind)) := by
    simp
  rw [hshape, pieces_append_cons, pieces_append_cons, pieces_of_notMem hmark,
    List.singleton_append]

/-- A part of a text stands only where its piece does. So if the piece stands only once, the part
does. -/
theorem before_unique (hmark : separator ∉ mark) {text other others : List Char}
    (htext : text = before ++ (start ++ separator :: (mark ++ separator :: rest)) ++ behind)
    (hother : text = other ++ (start ++ separator :: (mark ++ separator :: rest)) ++ others)
    (honce : (pieces separator text).count mark = 1) : other = before := by
  have happart {left right : List (List Char)} (hpieces : pieces separator text =
      left ++ mark :: right) : mark ∉ left ∧ mark ∉ right := by
    rw [hpieces, List.count_append, List.count_cons_self] at honce
    exact ⟨List.count_eq_zero.mp (by omega), List.count_eq_zero.mp (by omega)⟩
  have hfirst := htext ▸ pieces_append_mark hmark before start rest behind
  have hsecond := hother ▸ pieces_append_mark hmark other start rest others
  obtain ⟨hleft, hright⟩ := happart hfirst
  have hsame := hsecond.symm.trans hfirst
  have hbefore := ((List.append_cons_inj_of_notMem hleft hright).mp hsame.symm).1
  have hjoined := congrArg [separator].intercalate hbefore
  rw [intercalate_pieces, intercalate_pieces] at hjoined
  exact (List.append_cancel_right hjoined).symm

end Text

variable {options : Options} {source : String} {enums : List EnumDescriptor}
  {enum : EnumDescriptor}

/-- Without comments there is at most a mark of deprecation, on a line of its own. -/
theorem unbroken_of_mem_commentLines_none {options : Options} {deprecated : Bool} {lead : String} :
    ∀ line ∈ Binding.commentLines options none deprecated lead, Unbroken line := by
  have hblock : ∀ line ∈ Comment.block none deprecated lead, Unbroken line := by
    cases deprecated with
    | false => exact fun _ hline => (List.not_mem_nil hline).elim
    | true =>
      intro line hline
      have hmark : line = "/** @deprecated */" := List.mem_singleton.mp hline
      rw [hmark]
      decide
  unfold Binding.commentLines
  split
  · exact hblock
  · exact fun _ hline => (List.not_mem_nil hline).elim

namespace EnumDescriptor.Bare

variable (hbare : enum.Bare)

include hbare

theorem fullName_ne_empty : enum.fullName ≠ "" := by
  intro hempty
  have hname := hbare.fullName
  rw [hempty] at hname
  cases hname

/-- The code for a bare enumeration is made of single lines. -/
theorem singleLined (hsentinel : Text.isIdentifier options.sentinelName.toList = true) :
    (Binding.mk enum options).SingleLined where
  fullName := unbroken_of_isIdentifier hbare.fullName
  wireNames member hmember := by
    obtain ⟨value, hvalue, hname⟩ := Binding.exists_value_of_mem_members hmember
    rw [← hname]
    exact unbroken_of_isIdentifier (hbare.names value hvalue)
  names member hmember := by
    obtain ⟨value, hvalue, rfl⟩ := List.mem_map.mp hmember
    exact unbroken_memberName (unbroken_of_isIdentifier (hbare.names value hvalue))
  sentinelName _ := unbroken_of_isIdentifier hsentinel
  comment := by
    show ∀ line ∈ Binding.commentLines options enum.comment enum.deprecated "", Unbroken line
    rw [hbare.comment]
    exact unbroken_of_mem_commentLines_none
  memberComments member hmember := by
    obtain ⟨value, hvalue, rfl⟩ := List.mem_map.mp hmember
    show ∀ line ∈ Binding.commentLines options value.comment _ _, Unbroken line
    rw [hbare.comments value hvalue]
    exact unbroken_of_mem_commentLines_none

/-- A conversion is cut into its lines. -/
theorem textLines_conversion (hsentinel : Text.isIdentifier options.sentinelName.toList = true)
    {conversion : Conversion} (hconversion : conversion ∈ (Binding.mk enum options).conversions) :
    textLines (joinLines conversion.lines) = conversion.lines :=
  textLines_joinLines (by simp [Conversion.lines])
    ((hbare.singleLined hsentinel).unbroken_of_mem_conversions hconversion)

/-- The text of a conversion throws exactly if the conversion refuses something. -/
theorem hasThrow_conversion_iff (hsentinel : Text.isIdentifier options.sentinelName.toList = true)
    {conversion : Conversion} (hconversion : conversion ∈ (Binding.mk enum options).conversions) :
    HasThrow (joinLines conversion.lines) ↔ conversion.refuses = true := by
  rw [HasThrow, hbare.textLines_conversion hsentinel hconversion, conversion.exists_isThrow_iff]

/-- Some conversion of an enumeration throws exactly if its fragments need the helper. -/
theorem exists_hasThrow_iff (hsentinel : Text.isIdentifier options.sentinelName.toList = true) :
    (∃ text ∈ (contribution options enum).tail, HasThrow text) ↔
      options.sentinel = false ∧ (options.emitsFromJson = true ∨ options.emitsToJson = true) := by
  have htail := tail_contribution ⟨enum, options⟩ hbare.fullName_ne_empty
  have hrefuses := Binding.any_refuses_conversions ⟨enum, options⟩
  simp only at htail hrefuses
  rw [htail, ← Bool.not_eq_true', ← Bool.or_eq_true, ← Bool.and_eq_true, ← hrefuses,
    List.any_eq_true]
  simp only [List.mem_map, exists_exists_and_eq_and]
  refine exists_congr fun conversion => and_congr_right fun hconversion => ?_
  exact hbare.hasThrow_conversion_iff hsentinel hconversion

/-- In the text of a conversion its function is read with its arms. -/
theorem functionBranches_textLines
    (hsentinel : Text.isIdentifier options.sentinelName.toList = true) {conversion : Conversion}
    (hconversion : conversion ∈ (Binding.mk enum options).conversions) :
    functionBranches conversion.name (textLines (joinLines conversion.lines)) =
      conversion.arms.map Arm.branch := by
  have hbranches := conversion.functionBranches_lines []
  rw [List.append_nil] at hbranches
  rw [hbare.textLines_conversion hsentinel hconversion, hbranches]

end EnumDescriptor.Bare

/-! ## The line of the helper -/

/-- No line of the code of an enumeration opens a constant. -/
theorem Binding.not_opensConstant_of_mem_code {binding : Binding} {line : String}
    (hline : line ∈ binding.code) : ¬ OpensConstant (unindented line) := by
  rw [code_eq, List.mem_append, List.mem_flatMap] at hline
  rcases hline with hline | ⟨conversion, _, hline⟩
  · exact Declaration.not_opensConstant (fun _ => isRemark_of_mem_commentLines)
      (fun _ hmember => isRemark_of_mem_comment hmember) hline
  · rcases List.mem_cons.mp hline with rfl | hline
    · exact not_opensConstant_of_head? (by decide)
    · exact Conversion.not_opensConstant hline

/-- The heading is a comment. -/
theorem not_opensConstant_of_mem_headingLines {line : String} (hline : line ∈ headingLines source) :
    ¬ OpensConstant (unindented line) := by
  apply not_opensConstant_of_head?
  simp only [headingLines, List.mem_cons, List.not_mem_nil, or_false] at hline
  rcases hline with rfl | rfl | rfl | rfl
  · decide
  · simp [unindented]
  · decide
  · decide

/-- The line of the helper stands in a module once if some enumeration needs the helper, and
otherwise not at all. -/
theorem count_moduleLines (options : Options) (source : String) (enums : List EnumDescriptor) :
    (moduleLines options source enums ++ [""]).count globalObjectLine =
      if enums.any fun enum => (Draft.alone options enum).needsGlobalObject then 1 else 0 := by
  have hopens : OpensConstant (unindented globalObjectLine) := by
    rw [OpensConstant]
    decide
  have hnone {lines : List String} (hlines : ∀ line ∈ lines, ¬ OpensConstant (unindented line)) :
      lines.count globalObjectLine = 0 :=
    List.count_eq_zero.mpr fun hmem => hlines _ hmem hopens
  have hheading : (headingLines source).count globalObjectLine = 0 :=
    hnone fun _ hline => not_opensConstant_of_mem_headingLines hline
  have hcode : (enums.flatMap fun enum => "" :: (Binding.mk enum options).code).count
      globalObjectLine = 0 := by
    apply hnone
    intro line hline
    obtain ⟨enum, _, hline⟩ := List.mem_flatMap.mp hline
    rcases List.mem_cons.mp hline with rfl | hline
    · exact not_opensConstant_of_head? (by decide)
    · exact Binding.not_opensConstant_of_mem_code hline
  have hend : [""].count globalObjectLine = 0 := by decide
  have hhelper : ("" :: Helper.globalObject.lines).count globalObjectLine = 1 := by decide
  rw [moduleLines, List.count_append, List.count_append, List.count_append, hheading, hcode, hend,
    helperLines]
  split
  · rw [List.flatMap_singleton, hhelper]
  · rfl

/-- A line between others stands in their text between line breaks. -/
theorem toList_joinLines_append_cons {first rest : List String} (hfirst : first ≠ [])
    (hrest : rest ≠ []) (line : String) :
    (joinLines (first ++ line :: rest)).toList =
      (joinLines first).toList ++ '\n' :: (line.toList ++ '\n' :: (joinLines rest).toList) := by
  unfold joinLines
  rw [String.intercalate_append_of_ne_nil hfirst (List.cons_ne_nil _ _),
    String.intercalate_cons_of_ne_nil hrest]
  simp

/-- The line of the helper stands within its code. -/
theorem exists_code_eq : ∃ start rest, Helper.globalObject.code.toList =
    start ++ '\n' :: (globalObjectLine.toList ++ '\n' :: rest) := by
  have hlines : Helper.globalObject.lines = Helper.globalObject.lines.take 3 ++
      globalObjectLine :: Helper.globalObject.lines.drop 4 := by decide
  rw [Helper.code, hlines]
  exact ⟨_, _, toList_joinLines_append_cons (by decide) (by decide) _⟩

/-- A text has a line as a piece as often as it has the line. -/
theorem count_pieces (text line : String) :
    (Text.pieces '\n' text.toList).count line.toList = (textLines text).count line := by
  have hinjective : Function.Injective String.ofList := fun _ _ hsame => String.ofList_inj.mp hsame
  have hcount := List.count_map_of_injective (Text.pieces '\n' text.toList) String.ofList hinjective
    line.toList
  rw [String.ofList_toList] at hcount
  exact hcount.symm

/-! ## The helper in the text -/

/-- The enumerations need the helper exactly if some conversion throws. -/
theorem someConversionThrows_iff
    (hsentinel : Text.isIdentifier options.sentinelName.toList = true)
    (henums : ∀ enum ∈ enums, enum.Bare) :
    SomeConversionThrows options enums ↔ enums ≠ [] ∧ options.sentinel = false ∧
      (options.emitsFromJson = true ∨ options.emitsToJson = true) := by
  constructor
  · rintro ⟨enum, henum, hthrows⟩
    exact ⟨List.ne_nil_of_mem henum, ((henums enum henum).exists_hasThrow_iff hsentinel).mp hthrows⟩
  · rintro ⟨hne, hthrows⟩
    obtain ⟨enum, henum⟩ := List.exists_mem_of_ne_nil enums hne
    exact ⟨enum, henum, ((henums enum henum).exists_hasThrow_iff hsentinel).mpr hthrows⟩

/-- The helper is noted for exactly those enumerations for which a conversion throws. -/
theorem any_needsGlobalObject_iff
    (hsentinel : Text.isIdentifier options.sentinelName.toList = true)
    (henums : ∀ enum ∈ enums, enum.Bare) :
    (enums.any fun enum => (Draft.alone options enum).needsGlobalObject) = true ↔
      SomeConversionThrows options enums := by
  rw [List.any_eq_true]
  refine exists_congr fun enum => and_congr_right fun henum => ?_
  have hbare := henums enum henum
  have hneeds := Binding.any_needsGlobalObject_fragments ⟨enum, options⟩
  rw [hbare.exists_hasThrow_iff hsentinel, Draft.alone_eq hbare.fullName_ne_empty,
    Draft.needsGlobalObject_addAll, Bool.false_or, hneeds]
  simp

/-- The line of the helper stands in the text of a module once if some conversion throws, and
otherwise not at all. -/
theorem count_pieces_module {text : String} (hsource : Unbroken source)
    (hsentinel : Text.isIdentifier options.sentinelName.toList = true)
    (henums : ∀ enum ∈ enums, enum.Bare)
    (htext : (generateModule enums options source).outcome = .ok text) :
    (SomeConversionThrows options enums →
      (Text.pieces '\n' text.toList).count globalObjectLine.toList = 1) ∧
    (¬ SomeConversionThrows options enums →
      globalObjectLine.toList ∉ Text.pieces '\n' text.toList) := by
  have hnamed : ∀ enum ∈ enums, enum.fullName ≠ "" := fun enum henum =>
    (henums enum henum).fullName_ne_empty
  have hlines : text = joinLines (moduleLines options source enums ++ [""]) :=
    Except.ok.inj (htext.symm.trans (outcome_generateModule_lines hnamed))
  have hcount : (Text.pieces '\n' text.toList).count globalObjectLine.toList =
      if enums.any fun enum => (Draft.alone options enum).needsGlobalObject then 1 else 0 := by
    rw [count_pieces, hlines, textLines_of_singleLined hsource fun enum henum =>
      (henums enum henum).singleLined hsentinel, count_moduleLines]
  rw [← any_needsGlobalObject_iff hsentinel henums]
  constructor
  · intro hneeds
    rw [hcount, if_pos hneeds]
  · intro hneeds
    rw [if_neg hneeds] at hcount
    exact List.count_eq_zero.mp hcount

/-- The part of a module behind its heading begins with the code of the helper. -/
theorem exists_assemble_eq (source : String) (fragments : List String) :
    ∃ behind, (assemble source [Helper.globalObject.code] fragments).toList =
      (heading source ++ "\n\n").toList ++ Helper.globalObject.code.toList ++ behind := by
  unfold assemble
  rw [List.cons_append, List.singleton_append, String.intercalate_cons_cons]
  cases fragments with
  | nil =>
    refine ⟨"\n".toList, ?_⟩
    rw [String.intercalate_singleton, String.toList_append, String.toList_append]
  | cons first rest =>
    refine ⟨("\n\n" ++ "\n\n".intercalate (first :: rest) ++ "\n").toList, ?_⟩
    rw [String.intercalate_cons_cons]
    simp only [String.toList_append, List.append_assoc]

/-- In a text in which the line of the helper stands once, its code stands only in one place. -/
theorem before_unique_of_count {text : String}
    (honce : (Text.pieces '\n' text.toList).count globalObjectLine.toList = 1)
    {before behind other others : List Char}
    (htext : text.toList = before ++ Helper.globalObject.code.toList ++ behind)
    (hother : text.toList = other ++ Helper.globalObject.code.toList ++ others) :
    other = before := by
  obtain ⟨start, rest, hcode⟩ := exists_code_eq
  rw [hcode] at htext hother
  exact Text.before_unique (by decide) htext hother honce

/-- In a text without the line of the helper its code does not stand. -/
theorem not_infix_of_notMem {text : String}
    (hnever : globalObjectLine.toList ∉ Text.pieces '\n' text.toList) :
    ¬ Helper.globalObject.code.toList <:+: text.toList := by
  rintro ⟨before, behind, htext⟩
  obtain ⟨start, rest, hcode⟩ := exists_code_eq
  rw [hcode] at htext
  apply hnever
  rw [← htext, Text.pieces_append_mark (by decide)]
  exact List.mem_append_right _ List.mem_cons_self

/-- Without a sentinel the conversions between members and JSON throw by default. -/
theorem EnumDescriptor.Bare.exists_throwsOnlyByDefault (hbare : enum.Bare)
    (hsentinel : Text.isIdentifier options.sentinelName.toList = true) :
    ∃ declaration fromJson toJson toNumber, ThrowsOnlyByDefault (options.sentinel = false)
      options enum declaration fromJson toJson toNumber := by
  refine ⟨_, _, _, _, contribution_eq_cons ⟨enum, options⟩ hbare.fullName_ne_empty, ?_, ?_, ?_⟩
  · intro hoff hemits
    have hbranches := hbare.functionBranches_textLines hsentinel
      (Binding.fromJson_mem_conversions hemits)
    exact hbranches ▸ Binding.throwsByDefault_fromJson hoff _
  · intro hoff hemits
    have hbranches := hbare.functionBranches_textLines hsentinel
      (Binding.toJson_mem_conversions hemits)
    exact hbranches ▸ Binding.throwsByDefault_toJson hoff _
  · intro hemits
    let binding : Binding := ⟨enum, options⟩
    let conversion := binding.toNumber binding.sentinel
    have hconversion : conversion ∈ binding.conversions := Binding.toNumber_mem_conversions hemits
    refine ⟨?_, conversion.opening, ?_, conversion.opensFunction_opening⟩
    · show ¬ HasThrow (joinLines conversion.lines)
      rw [hbare.hasThrow_conversion_iff hsentinel hconversion, Binding.refuses_toNumber]
      exact Bool.false_ne_true
    · show conversion.opening ∈ textLines (joinLines conversion.lines)
      rw [hbare.textLines_conversion hsentinel hconversion]
      exact Conversion.mem_lines_iff.mpr (.inl rfl)

/-- If some conversion throws, the code of the helper stands in the text once, between the heading
and all that is written for enumerations; otherwise it does not stand there at all. A conversion
throws exactly if there is an enumeration, no sentinel is asked for, and a conversion between
members and JSON is. Then each of these conversions throws by default and only there, and no
conversion to numbers throws. -/
theorem helper_iff_someConversionThrows (hsource : Unbroken source)
    (hsentinel : Text.isIdentifier options.sentinelName.toList = true)
    (henums : ∀ enum ∈ enums, enum.Bare) :
    ∃ text, (generateModule enums options source).outcome = .ok text ∧
      (SomeConversionThrows options enums →
        text = assemble source [Helper.globalObject.code] (enums.flatMap (contribution options)) ∧
        ∃! before, ∃ behind, text.toList = before ++ Helper.globalObject.code.toList ++ behind) ∧
      (¬ SomeConversionThrows options enums →
        text = assemble source [] (enums.flatMap (contribution options)) ∧
        ¬ Helper.globalObject.code.toList <:+: text.toList) ∧
      (SomeConversionThrows options enums ↔ enums ≠ [] ∧ options.sentinel = false ∧
        (options.emitsFromJson = true ∨ options.emitsToJson = true)) ∧
      ∀ enum ∈ enums, ∃ declaration fromJson toJson toNumber,
        ThrowsOnlyByDefault (SomeConversionThrows options enums) options enum declaration fromJson
          toJson toNumber := by
  have hnamed : ∀ enum ∈ enums, enum.fullName ≠ "" := fun enum henum =>
    (henums enum henum).fullName_ne_empty
  have htext := @outcome_generateModule options enums hnamed source
  obtain ⟨honce, hnever⟩ := count_pieces_module hsource hsentinel henums htext
  have hiff := someConversionThrows_iff hsentinel henums
  have hneeds := any_needsGlobalObject_iff hsentinel henums
  refine ⟨_, htext, ?_, ?_, hiff, ?_⟩
  · intro hthrows
    have hcode : helpersFor options enums = [Helper.globalObject.code] :=
      if_pos (hneeds.mpr hthrows)
    obtain ⟨behind, hbehind⟩ := exists_assemble_eq source (enums.flatMap (contribution options))
    rw [hcode] at honce ⊢
    refine ⟨rfl, _, ⟨behind, hbehind⟩, ?_⟩
    rintro other ⟨others, hother⟩
    exact before_unique_of_count (honce hthrows) hbehind hother
  · intro hthrows
    have hcode : helpersFor options enums = [] := if_neg (mt hneeds.mp hthrows)
    rw [hcode] at hnever ⊢
    exact ⟨rfl, not_infix_of_notMem (hnever hthrows)⟩
  · intro enum henum
    obtain ⟨_, _, _, _, htexts⟩ := (henums enum henum).exists_throwsOnlyByDefault hsentinel
    exact ⟨_, _, _, _, htexts.contribution, fun hthrows => htexts.fromJson (hiff.mp hthrows).2.1,
      fun hthrows => htexts.toJson (hiff.mp hthrows).2.1, htexts.toNumber⟩

theorem trafficLight_bare : trafficLight.enum.Bare where
  fullName := by decide
  names := by decide
  comment := rfl
  comments := by decide

/-- Without a sentinel the conversions of the traffic light throw, and the helper stands once. With
one it does not stand at all. -/
theorem helper_iff_someConversionThrows_trafficLight :
    (∃ text,
      (generateModule [trafficLight.enum] { sentinel := false } "in/road").outcome = .ok text ∧
      ∃! before, ∃ behind, text.toList = before ++ Helper.globalObject.code.toList ++ behind) ∧
    ∃ text, (generateModule [trafficLight.enum] {} "in/road").outcome = .ok text ∧
      ¬ Helper.globalObject.code.toList <:+: text.toList := by
  have hbare : ∀ enum ∈ [trafficLight.enum], enum.Bare :=
    List.forall_mem_singleton.mpr trafficLight_bare
  constructor
  · obtain ⟨text, htext, honce, _, hiff, _⟩ := @helper_iff_someConversionThrows
      { sentinel := false } "in/road" [trafficLight.enum] (by decide) (by decide +kernel) hbare
    exact ⟨text, htext, (honce (hiff.mpr ⟨by decide, rfl, .inl rfl⟩)).2⟩
  · obtain ⟨text, htext, _, hnever, hiff, _⟩ := @helper_iff_someConversionThrows
      {} "in/road" [trafficLight.enum] (by decide) (by decide +kernel) hbare
    exact ⟨text, htext, (hnever fun hthrows => Bool.noConfusion (hiff.mp hthrows).2.1).2⟩

end EnumBindings
