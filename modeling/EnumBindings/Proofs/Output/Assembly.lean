import EnumBindings.Proofs.Binding.WellNamed
import EnumBindings.Proofs.Output.Text
import EnumBindings.Proofs.Traversal

/-!
# The module as a sequence of contributions

All enumerations of a module are written into one draft, which remembers names, helpers and
fragments. What one of them contributes does not depend on the others: it is what it leaves when
it is written alone. So a module is its heading, the helpers that some enumeration needs and the
contributions in order, unless some enumeration cannot be written: the first such one ends the run.
-/

namespace EnumBindings

open Script Binding

/-- What the heading of a module calls the file that the module is made from: whatever stands
behind the last slash of its name. -/
def NamesSource (source name : String) : Prop :=
  source = "" ∧ name = "descriptors" ∨
    source ≠ "" ∧ '/' ∉ name.toList ∧ (name = source ∨ ∃ folder, source = folder ++ "/" ++ name)

/-- The draft of an enumeration that is written alone. -/
def Draft.alone (options : Options) (enum : EnumDescriptor) : Draft :=
  match (Draft.addEnum options {} enum).outcome with
  | .ok draft => draft
  | .error _ => {}

/-- What an enumeration contributes to a module: the fragments that it leaves when it is written
alone. -/
def contribution (options : Options) (enum : EnumDescriptor) : List String :=
  (Draft.alone options enum).fragments

/-- The code of the helpers that some of the enumerations need when they are written alone. -/
def helpersFor (options : Options) (enums : List EnumDescriptor) : List String :=
  if enums.any fun enum => (Draft.alone options enum).needsGlobalObject then
    [Helper.globalObject.code]
  else []

/-- The text of a module with the given helpers and fragments. -/
def assemble (source : String) (helpers fragments : List String) : String :=
  "\n\n".intercalate (heading source :: helpers ++ fragments) ++ "\n"

/-- The name in the heading is the base name of the file. -/
theorem exists_heading_eq (source : String) :
    ∃ name, NamesSource source name ∧ heading source = joinLines
      ["/* eslint-disable */", "// Auto-generated by proto2ts from " ++ name, "//",
        "// Do not edit by hand: changes will be lost when the file is regenerated."] := by
  unfold heading
  by_cases hsource : source = ""
  · refine ⟨"descriptors", Or.inl ⟨hsource, rfl⟩, ?_⟩
    rw [if_pos (by simpa using hsource)]
  · have hempty : ¬source.isEmpty = true := by simpa using hsource
    refine ⟨baseName source, Or.inr ⟨hsource, ?_⟩, by rw [if_neg hempty]⟩
    unfold baseName
    cases hcut : Text.cutAtLast? '/' source.toList with
    | none => exact ⟨Text.cutAtLast?_eq_none_iff.mp hcut, Or.inl rfl⟩
    | some cut =>
      obtain ⟨folder, name⟩ := cut
      obtain ⟨htext, hname⟩ := Text.cutAtLast?_eq_some_iff.mp hcut
      refine ⟨by simpa using hname, Or.inr ⟨String.ofList folder, ?_⟩⟩
      rw [← String.toList_inj]
      simp [htext]

namespace Draft

@[simp] theorem needsGlobalObject_define (draft : Draft) (symbol : String) :
    (draft.define symbol).needsGlobalObject = draft.needsGlobalObject := by
  unfold define
  split <;> rfl

@[simp] theorem needsGlobalObject_defineAll (draft : Draft) (symbols : List String) :
    (symbols.foldl define draft).needsGlobalObject = draft.needsGlobalObject := by
  induction symbols generalizing draft with
  | nil => rfl
  | cons symbol symbols ih => rw [List.foldl_cons, ih, needsGlobalObject_define]

/-- A helper stays noted, and is noted with a fragment that needs it. -/
@[simp] theorem needsGlobalObject_add (draft : Draft) (fragment : Fragment) :
    (draft.add fragment).needsGlobalObject =
      (draft.needsGlobalObject || fragment.needsGlobalObject) := by
  unfold add append
  cases fragment.needsGlobalObject <;> simp [require]

theorem needsGlobalObject_addAll (draft : Draft) (fragments : List Fragment) :
    (draft.addAll fragments).needsGlobalObject =
      (draft.needsGlobalObject || fragments.any (·.needsGlobalObject)) := by
  unfold addAll
  induction fragments generalizing draft with
  | nil => simp
  | cons fragment fragments ih => rw [List.foldl_cons, ih]; simp [Bool.or_assoc]

end Draft

variable {options : Options} {limits : Limits} {enum : EnumDescriptor}
  {enums : List EnumDescriptor}

/-- An enumeration with a name leaves its fragments when it is written alone. -/
theorem Draft.alone_eq (hname : enum.fullName ≠ "") :
    Draft.alone options enum = Draft.addAll {} (Binding.mk enum options).fragments := by
  have houtcome := Binding.outcome_addEnum (enum.writable_unlimited hname options) {}
  rw [Draft.alone, houtcome]

/-- An enumeration without a name contributes nothing. -/
theorem contribution_of_unnamed (hempty : enum.fullName = "") : contribution options enum = [] := by
  rw [contribution, Draft.alone, Binding.outcome_addEnum_of_unnamed hempty]

/-- The contribution of an enumeration with a name is made of the texts of its fragments. -/
theorem contribution_eq (hname : enum.fullName ≠ "") :
    contribution options enum =
      ((Binding.mk enum options).fragments.map (·.lines)).map joinLines := by
  rw [contribution, Draft.alone_eq hname, Draft.fragments_addAll, Binding.flatMap_visibleCode,
    List.nil_append]

/-- An enumeration contributes the text of its declaration and those of its conversions. -/
theorem contribution_eq_conversions (binding : Binding) (hname : binding.enum.fullName ≠ "") :
    contribution binding.options binding.enum =
      joinLines binding.declaration.lines ::
        binding.conversions.map fun conversion => joinLines conversion.lines := by
  rw [contribution_eq hname, Binding.fragments, List.map_cons, List.map_cons, List.map_map,
    List.map_map]
  rfl

/-- Behind the text of the declaration stand those of the conversions. -/
theorem tail_contribution (binding : Binding) (hname : binding.enum.fullName ≠ "") :
    (contribution binding.options binding.enum).tail =
      binding.conversions.map fun conversion => joinLines conversion.lines := by
  rw [contribution_eq_conversions binding hname, List.tail_cons]

/-- The declaration comes first, then the conversions that the options ask for. -/
theorem contribution_eq_cons (binding : Binding) (hname : binding.enum.fullName ≠ "") :
    contribution binding.options binding.enum =
      joinLines binding.declaration.lines ::
        ((if binding.options.emitsFromJson then
          [joinLines (binding.fromJson binding.sentinel).lines] else []) ++
        (if binding.options.emitsToJson then
          [joinLines (binding.toJson binding.sentinel).lines] else []) ++
        if binding.options.emitsToNumber then
          [joinLines (binding.toNumber binding.sentinel).lines] else []) := by
  rw [contribution_eq_conversions binding hname]
  unfold Binding.conversions
  cases binding.options.emitsFromJson <;> cases binding.options.emitsToJson <;>
    cases binding.options.emitsToNumber <;> rfl

/-- Nothing that is contributed is empty. -/
theorem ne_empty_of_mem_contribution (hname : enum.fullName ≠ "") {text : String}
    (htext : text ∈ contribution options enum) : text ≠ "" := by
  rw [contribution_eq hname, List.map_map, List.mem_map] at htext
  obtain ⟨fragment, hfragment, rfl⟩ := htext
  obtain ⟨line, hline, hbrace⟩ := Binding.exists_brace_of_mem_fragments hfragment
  intro hempty
  have hmem := mem_joinLines hline hbrace
  rw [Function.comp_apply] at hempty
  rw [hempty] at hmem
  cases hmem

/-- The first enumeration is written before the others. -/
theorem outcome_addEnums_cons (options : Options) (draft : Draft) (enum : EnumDescriptor)
    (rest : List EnumDescriptor) (limits : Limits) :
    (Draft.addEnums options draft (enum :: rest) limits).outcome =
      (draft.addEnum options enum limits).outcome >>= fun draft =>
        (Draft.addEnums options draft rest limits).outcome := by
  rw [Draft.addEnums, Reported.outcome_bind, Reported.outcome_report, ← Reported.outcome_bind]
  rfl

/-- Writing enumerations that can be written adds their fragments before those of the others. -/
theorem outcome_addEnums_append (henums : ∀ enum ∈ enums, enum.Writable options limits)
    (rest : List EnumDescriptor) (draft : Draft) :
    (Draft.addEnums options draft (enums ++ rest) limits).outcome =
      (Draft.addEnums options
        (draft.addAll (enums.flatMap fun enum => (Binding.mk enum options).fragments)) rest
        limits).outcome := by
  induction enums generalizing draft with
  | nil => rfl
  | cons enum enums ih =>
    have hfirst := Binding.outcome_addEnum (henums enum List.mem_cons_self) draft
    have hrest := fun other hother => henums other (List.mem_cons_of_mem _ hother)
    rw [List.cons_append, outcome_addEnums_cons, hfirst, List.flatMap_cons, Draft.addAll_append]
    exact ih hrest _

/-- Writing enumerations that can be written adds their fragments in order. -/
theorem outcome_addEnums (henums : ∀ enum ∈ enums, enum.Writable options limits) (draft : Draft) :
    (Draft.addEnums options draft enums limits).outcome =
      .ok (draft.addAll (enums.flatMap fun enum => (Binding.mk enum options).fragments)) := by
  have happend := outcome_addEnums_append henums [] draft
  rwa [List.append_nil] at happend

/-- The first enumeration that cannot be written ends the writing, whatever comes behind it. -/
theorem outcome_addEnums_of_error {error : WriteError}
    (henums : ∀ enum ∈ enums, enum.Writable options limits)
    (herror : ∀ draft : Draft, (draft.addEnum options enum limits).outcome = .error error)
    (rest : List EnumDescriptor) (draft : Draft) :
    (Draft.addEnums options draft (enums ++ enum :: rest) limits).outcome = .error error := by
  rw [outcome_addEnums_append henums, outcome_addEnums_cons, herror]
  rfl

/-- The fragments of a draft are the contributions of its enumerations in order. -/
theorem fragments_addEnums (hnamed : ∀ enum ∈ enums, enum.fullName ≠ "") :
    (Draft.addAll {} (enums.flatMap fun enum => (Binding.mk enum options).fragments)).fragments =
      enums.flatMap (contribution options) := by
  rw [Draft.fragments_addAll, List.nil_append, List.flatMap_assoc]
  refine List.flatMap_congr ?_
  intro enum henum
  rw [contribution_eq (hnamed enum henum), Binding.flatMap_visibleCode]

/-- The helpers of a draft are those that its enumerations need when they are written alone. -/
theorem helperCode_addEnums (hnamed : ∀ enum ∈ enums, enum.fullName ≠ "") :
    (Draft.addAll {} (enums.flatMap fun enum => (Binding.mk enum options).fragments)).helperCode =
      helpersFor options enums := by
  have hneeds : (enums.flatMap fun enum => (Binding.mk enum options).fragments).any
      (·.needsGlobalObject) =
        enums.any fun enum => (Draft.alone options enum).needsGlobalObject := by
    rw [List.any_flatMap]
    rw [Bool.eq_iff_iff, List.any_eq_true, List.any_eq_true]
    refine exists_congr fun enum => and_congr_right fun henum => ?_
    rw [Draft.alone_eq (hnamed enum henum), Draft.needsGlobalObject_addAll, Bool.false_or]
  rw [Draft.helperCode, Draft.helpers, Draft.needsGlobalObject_addAll, Bool.false_or, hneeds,
    helpersFor]
  split <;> rfl

/-- Joining texts that are not empty gives an empty text only if there are none. -/
theorem intercalate_eq_empty_iff (separator : String) {texts : List String}
    (htexts : ∀ text ∈ texts, text ≠ "") : separator.intercalate texts = "" ↔ texts = [] := by
  constructor
  · intro hempty
    cases texts with
    | nil => rfl
    | cons first rest =>
      refine absurd ?_ (htexts first List.mem_cons_self)
      cases rest with
      | nil => rwa [String.intercalate_singleton] at hempty
      | cons second rest =>
        rw [String.intercalate_cons_cons, String.append_assoc, String.append_eq_empty_iff] at hempty
        exact hempty.1
  · rintro rfl
    exact String.intercalate_nil

/-- Joined groups of texts may be joined again, if a group without texts is left out. -/
theorem intercalate_filter_map_intercalate (separator : String) {groups : List (List String)}
    (hgroups : ∀ group ∈ groups, ∀ text ∈ group, text ≠ "") :
    separator.intercalate ((groups.map separator.intercalate).filter (!·.isEmpty)) =
      separator.intercalate groups.flatten := by
  induction groups with
  | nil => rfl
  | cons group rest ih =>
    have hgroup := hgroups group List.mem_cons_self
    have hrest := fun other hother => hgroups other (List.mem_cons_of_mem _ hother)
    have hjoined := ih hrest
    have hkept : ∀ text ∈ (rest.map separator.intercalate).filter (!·.isEmpty), text ≠ "" := by
      intro text htext
      simpa using List.of_mem_filter htext
    have hflat : ∀ text ∈ rest.flatten, text ≠ "" := by
      intro text htext
      obtain ⟨other, hother, htext⟩ := List.mem_flatten.mp htext
      exact hrest other hother text htext
    rw [List.map_cons, List.flatten_cons]
    by_cases hnil : group = []
    · rw [hnil, List.filter_cons_of_neg (by simp), List.nil_append, hjoined]
    · have hne : separator.intercalate group ≠ "" := fun h =>
        hnil ((intercalate_eq_empty_iff separator hgroup).mp h)
      rw [List.filter_cons_of_pos (by simpa using hne)]
      by_cases hlast : rest.flatten = []
      · rw [hlast, String.intercalate_nil, intercalate_eq_empty_iff separator hkept] at hjoined
        rw [hjoined, hlast, String.intercalate_singleton, List.append_nil]
      · have hmore : (rest.map separator.intercalate).filter (!·.isEmpty) ≠ [] := by
          rw [Ne, ← intercalate_eq_empty_iff separator hkept, hjoined,
            intercalate_eq_empty_iff separator hflat]
          exact hlast
        rw [String.intercalate_cons_of_ne_nil hmore, hjoined,
          String.intercalate_append_of_ne_nil hnil hlast]

/-- The heading and the helpers are visible parts of a module. -/
theorem ne_empty_of_mem_parts {source part : String}
    (hpart : part ∈ heading source :: helpersFor options enums) : part ≠ "" := by
  have hvisible {lines : List String} {line : String} {c : Char} (hline : line ∈ lines)
      (hc : c ∈ line.toList) : joinLines lines ≠ "" := by
    intro hempty
    have hmem := mem_joinLines hline hc
    rw [hempty] at hmem
    cases hmem
  rcases List.mem_cons.mp hpart with rfl | hpart
  · exact hvisible List.mem_cons_self (c := '*') (by decide)
  · unfold helpersFor at hpart
    split at hpart
    · rw [List.mem_singleton.mp hpart]
      exact hvisible List.mem_cons_self (c := 'd') (by decide)
    · cases hpart

/-- Enumerations that can be written give a module that is assembled from their contributions. -/
theorem outcome_generateModule_of_writable
    (henums : ∀ enum ∈ enums, enum.Writable options limits) (source : String) :
    (generateModule enums options source limits).outcome =
      .ok (assemble source (helpersFor options enums) (enums.flatMap (contribution options))) := by
  have hnamed := fun enum henum => (henums enum henum).fullName
  have hfragments : ∀ text ∈ enums.flatMap (contribution options), text ≠ "" := by
    intro text htext
    obtain ⟨enum, henum, htext⟩ := List.mem_flatMap.mp htext
    exact ne_empty_of_mem_contribution (hnamed enum henum) htext
  have hgroups : ∀ group ∈ (heading source :: helpersFor options enums).map ([·]) ++
      [enums.flatMap (contribution options)], ∀ text ∈ group, text ≠ "" := by
    intro group hgroup text htext
    rcases List.mem_append.mp hgroup with hgroup | hgroup
    · obtain ⟨part, hpart, rfl⟩ := List.mem_map.mp hgroup
      rw [List.mem_singleton.mp htext]
      exact ne_empty_of_mem_parts hpart
    · rw [List.mem_singleton.mp hgroup] at htext
      exact hfragments text htext
  have hjoined := intercalate_filter_map_intercalate "\n\n" hgroups
  have hsingletons : ((heading source :: helpersFor options enums).map ([·])).map
      "\n\n".intercalate = heading source :: helpersFor options enums := by
    simp [Function.comp_def]
  rw [List.map_append, hsingletons, List.map_singleton, List.flatten_append,
    List.flatten_singleton, ← List.flatMap_def, List.flatMap_singleton'] at hjoined
  rw [generateModule, Reported.outcome_bind, outcome_addEnums henums]
  show Except.ok (Draft.module _ source) = _
  rw [Draft.module, Draft.body, fragments_addEnums hnamed, helperCode_addEnums hnamed, assemble,
    hjoined]

/-- Without limits names are enough. -/
theorem outcome_generateModule (hnamed : ∀ enum ∈ enums, enum.fullName ≠ "") (source : String) :
    (generateModule enums options source).outcome =
      .ok (assemble source (helpersFor options enums) (enums.flatMap (contribution options))) :=
  outcome_generateModule_of_writable
    (fun enum henum => enum.writable_unlimited (hnamed enum henum) options) source

/-- No module is generated if the first enumeration that cannot be written is met with an error. -/
theorem outcome_generateModule_of_error {error : WriteError}
    (henums : ∀ enum ∈ enums, enum.Writable options limits)
    (herror : ∀ draft : Draft, (draft.addEnum options enum limits).outcome = .error error)
    (rest : List EnumDescriptor) (source : String) :
    (generateModule (enums ++ enum :: rest) options source limits).outcome = .error error := by
  rw [generateModule, Reported.outcome_bind, outcome_addEnums_of_error henums herror]
  rfl

/-- An enumeration that is added can be written, and if it has a name, the only other way is that a
number is too long. -/
theorem Draft.addEnum_cases (options : Options) (limits : Limits) (enum : EnumDescriptor) :
    enum.Writable options limits ∨
      ∃ error, (∀ draft : Draft, (draft.addEnum options enum limits).outcome = .error error) ∧
        (enum.fullName ≠ "" → error = .longNumber) := by
  by_cases hname : enum.fullName = ""
  · exact Or.inr ⟨_, Binding.outcome_addEnum_of_unnamed hname, fun hne => (hne hname).elim⟩
  · cases hfits : (Binding.mk enum options).fits limits with
    | true => exact Or.inl ⟨hname, hfits⟩
    | false =>
      exact Or.inr ⟨_, Binding.outcome_addEnum_of_not_fits hname hfits, fun _ => rfl⟩

/-- Either all enumerations can be written, or the first that cannot be is met with an error. -/
theorem generateModule_cases (enums : List EnumDescriptor) (options : Options) (source : String)
    (limits : Limits) :
    (∀ enum ∈ enums, enum.Writable options limits) ∨
      ∃ error, (generateModule enums options source limits).outcome = .error error ∧
        ((∀ enum ∈ enums, enum.fullName ≠ "") → error = .longNumber) := by
  by_cases hall : ∀ enum ∈ enums, enum.Writable options limits
  · exact Or.inl hall
  · obtain ⟨before, enum, rest, rfl, hbefore, hfirst⟩ := exists_first_not hall
    rcases Draft.addEnum_cases options limits enum with hwritable | ⟨error, herror, hlong⟩
    · exact (hfirst hwritable).elim
    · refine Or.inr ⟨error, outcome_generateModule_of_error hbefore herror rest source, ?_⟩
      exact fun hnamed => hlong (hnamed enum (List.mem_append_right _ List.mem_cons_self))

/-- What is generated within limits is generated without them. -/
theorem outcome_generateModule_unlimited {source code : String}
    (hgenerate : (generateModule enums options source limits).outcome = .ok code) :
    (generateModule enums options source).outcome = .ok code := by
  rcases generateModule_cases enums options source limits with henums | ⟨error, herror, _⟩
  · rw [outcome_generateModule_of_writable henums] at hgenerate
    rw [outcome_generateModule fun enum henum => (henums enum henum).fullName, hgenerate]
  · rw [hgenerate] at herror
    cases herror

/-- Enumerations with names are met with no other error than that a number is too long. -/
theorem eq_longNumber_of_generateModule {source : String} {error : WriteError}
    (hnamed : ∀ enum ∈ enums, enum.fullName ≠ "")
    (hgenerate : (generateModule enums options source limits).outcome = .error error) :
    error = .longNumber := by
  rcases generateModule_cases enums options source limits with henums | ⟨other, hother, hlong⟩
  · rw [outcome_generateModule_of_writable henums] at hgenerate
    cases hgenerate
  · rw [hother] at hgenerate
    exact Except.error.inj hgenerate ▸ hlong hnamed

/-- The body of a module for enumerations in two lists has the two bodies one after the other. -/
theorem exists_body_append (first second : List EnumDescriptor)
    (henums : ∀ enum ∈ first ++ second, enum.Writable options limits) :
    ∃ left right whole, (Draft.addEnums options {} first limits).outcome = .ok left ∧
      (Draft.addEnums options {} second limits).outcome = .ok right ∧
      (Draft.addEnums options {} (first ++ second) limits).outcome = .ok whole ∧
      whole.body = "\n\n".intercalate ([left.body, right.body].filter (!·.isEmpty)) := by
  have hleft := fun enum henum => henums enum (List.mem_append_left second henum)
  have hright := fun enum henum => henums enum (List.mem_append_right first henum)
  have hfirst := fun enum henum => (hleft enum henum).fullName
  have hsecond := fun enum henum => (hright enum henum).fullName
  have hnamed := fun enum henum => (henums enum henum).fullName
  refine ⟨_, _, _, outcome_addEnums hleft {}, outcome_addEnums hright {},
    outcome_addEnums henums {}, ?_⟩
  have hgroups : ∀ group ∈ [first.flatMap (contribution options),
      second.flatMap (contribution options)], ∀ text ∈ group, text ≠ "" := by
    intro group hgroup text htext
    rw [List.mem_cons, List.mem_singleton] at hgroup
    rcases hgroup with rfl | rfl
    · obtain ⟨enum, henum, htext⟩ := List.mem_flatMap.mp htext
      exact ne_empty_of_mem_contribution (hfirst enum henum) htext
    · obtain ⟨enum, henum, htext⟩ := List.mem_flatMap.mp htext
      exact ne_empty_of_mem_contribution (hsecond enum henum) htext
  have hjoined := intercalate_filter_map_intercalate "\n\n" hgroups
  rw [Draft.body, Draft.body, Draft.body, fragments_addEnums hfirst, fragments_addEnums hsecond,
    fragments_addEnums hnamed, List.flatMap_append]
  simpa using hjoined.symm

/-- A module is assembled from what its enumerations contribute, if all of them have a full name and
no number in their code is too long. The heading names the file; the helpers that some enumeration
needs follow, and then the contributions in order, each made of a declaration and the conversions
that the options ask for. Between any two parts there is one blank line. So the bodies for two lists
stand one after the other in the body for both, and reordering the enumerations only reorders the
contributions. Otherwise the first enumeration that cannot be written decides about the error. No
number is too long if the codes of the values and of the sentinel are not. -/
theorem generateModule_assembles (options : Options) (source : String) (limits : Limits) :
    (∃ name, NamesSource source name ∧ heading source = joinLines
      ["/* eslint-disable */", "// Auto-generated by proto2ts from " ++ name, "//",
        "// Do not edit by hand: changes will be lost when the file is regenerated."]) ∧
    (∀ binding : Binding, binding.enum.fullName ≠ "" →
      (binding.fits limits = true →
        ∃ draft, (Draft.addEnum binding.options {} binding.enum limits).outcome = .ok draft ∧
          draft.fragments = contribution binding.options binding.enum) ∧
      contribution binding.options binding.enum =
        joinLines binding.declaration.lines ::
          ((if binding.options.emitsFromJson then
            [joinLines (binding.fromJson binding.sentinel).lines] else []) ++
          (if binding.options.emitsToJson then
            [joinLines (binding.toJson binding.sentinel).lines] else []) ++
          if binding.options.emitsToNumber then
            [joinLines (binding.toNumber binding.sentinel).lines] else [])) ∧
    (∀ enums : List EnumDescriptor, (∀ enum ∈ enums, enum.Writable options limits) →
      (generateModule enums options source limits).outcome =
        .ok (assemble source (helpersFor options enums) (enums.flatMap (contribution options)))) ∧
    (∀ first second : List EnumDescriptor,
      (∀ enum ∈ first ++ second, enum.Writable options limits) →
      ∃ left right whole, (Draft.addEnums options {} first limits).outcome = .ok left ∧
        (Draft.addEnums options {} second limits).outcome = .ok right ∧
        (Draft.addEnums options {} (first ++ second) limits).outcome = .ok whole ∧
        whole.body = "\n\n".intercalate ([left.body, right.body].filter (!·.isEmpty))) ∧
    (∀ enums reordered : List EnumDescriptor, enums.Perm reordered →
      (∀ enum ∈ enums, enum.Writable options limits) →
      (enums.map (contribution options)).Perm (reordered.map (contribution options)) ∧
      (generateModule reordered options source limits).outcome =
        .ok (assemble source (helpersFor options enums)
          (reordered.map (contribution options)).flatten)) ∧
    (∀ (before : List EnumDescriptor) (enum : EnumDescriptor) (rest : List EnumDescriptor),
      (∀ enum ∈ before, enum.Writable options limits) →
      (enum.fullName = "" →
        (generateModule (before ++ enum :: rest) options source limits).outcome =
          .error (.refused ⟨.emptyName, if enum.name = "" then none else some enum.name⟩)) ∧
      (enum.fullName ≠ "" → (Binding.mk enum options).fits limits = false →
        (generateModule (before ++ enum :: rest) options source limits).outcome =
          .error .longNumber)) ∧
    ∀ enum : EnumDescriptor, enum.fullName ≠ "" →
      (∀ value ∈ enum.values, limits.allowsNumber value.number = true) →
      limits.allowsNumber options.sentinelCode = true → enum.Writable options limits := by
  refine ⟨exists_heading_eq source, ?_, ?_, ?_, ?_, ?_, ?_⟩
  · intro binding hname
    refine ⟨fun hfits => ⟨_, Binding.outcome_addEnum ⟨hname, hfits⟩ {}, ?_⟩,
      contribution_eq_cons binding hname⟩
    rw [contribution, Draft.alone_eq hname]
  · intro enums henums
    exact outcome_generateModule_of_writable henums source
  · intro first second henums
    exact exists_body_append first second henums
  · intro enums reordered hperm henums
    have hreordered : ∀ enum ∈ reordered, enum.Writable options limits := fun enum henum =>
      henums enum (hperm.mem_iff.mpr henum)
    have hhelpers : helpersFor options reordered = helpersFor options enums := by
      unfold helpersFor
      rw [hperm.any_eq]
    refine ⟨hperm.map _, ?_⟩
    rw [outcome_generateModule_of_writable hreordered, hhelpers, List.flatMap_def]
  · intro before enum rest hbefore
    refine ⟨fun hempty => ?_, fun hname hfits => ?_⟩
    · exact outcome_generateModule_of_error hbefore (Binding.outcome_addEnum_of_unnamed hempty) rest
        source
    · exact outcome_generateModule_of_error hbefore
        (Binding.outcome_addEnum_of_not_fits hname hfits) rest source
  · intro enum hname hvalues hsentinel
    exact EnumDescriptor.writable_of_codes hname hvalues hsentinel

/-- An enumeration that is written twice contributes the same twice, behind one helper. One without
a name between the two is refused under its own name. -/
theorem generateModule_assembles_trafficLight :
    (generateModule [trafficLight.enum, trafficLight.enum] { sentinel := false } "in/road"
      (.ordinary 0)).outcome =
        .ok (assemble "in/road" [Helper.globalObject.code]
          (contribution { sentinel := false } trafficLight.enum ++
            contribution { sentinel := false } trafficLight.enum)) ∧
    (generateModule [trafficLight.enum, { name := "Lost", fullName := "" }, trafficLight.enum]
      { sentinel := false } "in/road" (.ordinary 0)).outcome =
        .error (.refused ⟨.emptyName, some "Lost"⟩) := by
  have hhelpers : helpersFor { sentinel := false } [trafficLight.enum, trafficLight.enum] =
      [Helper.globalObject.code] := by
    decide +kernel
  obtain ⟨_, _, hmodule, _, _, herror, hwritable⟩ :=
    generateModule_assembles { sentinel := false } "in/road" (.ordinary 0)
  have hlight := hwritable trafficLight.enum (by decide) (by decide) (by decide)
  have htwice := hmodule [trafficLight.enum, trafficLight.enum]
    (List.forall_mem_cons.mpr ⟨hlight, List.forall_mem_singleton.mpr hlight⟩)
  have hlost := (herror [trafficLight.enum] { name := "Lost", fullName := "" } [trafficLight.enum]
    (List.forall_mem_singleton.mpr hlight)).1 rfl
  rw [hhelpers, List.flatMap_cons, List.flatMap_singleton] at htwice
  exact ⟨htwice, hlost⟩

/-- A full name is not enough, since a number may be too long; and the heading names no file where
the name of the file ends with a slash. -/
theorem generateModule_longNumber :
    (generateModule [farAway] {} "" (.ordinary 900)).outcome = .error .longNumber ∧
    heading "dir/" = joinLines
      ["/* eslint-disable */", "// Auto-generated by proto2ts from ", "//",
        "// Do not edit by hand: changes will be lost when the file is regenerated."] := by
  have hfits : (Binding.mk farAway {}).fits (.ordinary 900) = false :=
    List.all_eq_false.mpr ⟨_, List.mem_cons_self, by
      rw [Binding.declarationFragment_fits_eq_false List.mem_cons_self rfl
        (allowsNumber_longNumber 900)]
      exact Bool.false_ne_true⟩
  have hadd := @Binding.outcome_addEnum_of_not_fits farAway {} _ (by decide) hfits
  have hmodule := outcome_generateModule_of_error (List.forall_mem_nil _) hadd [] ""
  rw [List.nil_append] at hmodule
  exact ⟨hmodule, by decide⟩

end EnumBindings
