import EnumBindings.Output.Step
import EnumBindings.Proofs.Binding.Refusal
import EnumBindings.Proofs.Output.Assembly
import Mathlib.Data.List.Induction

/-!
# What steps leave behind

A draft may be written by steps of many kinds, in any order. Whatever a step does, it adds fragments
to the draft, and these do not depend on the draft. A step that is refused adds none. A step that
has to spell too long a number is over where it comes to the number, and what it has noted and added
before stays.
-/

namespace EnumBindings

open Script

namespace Binding

/-- The names that a declaration introduces, its own before that of its scope. -/
def declaredSymbols (binding : Binding) : List String :=
  binding.declaredName :: (binding.scope.map (·.enclosing)).toList

/-- The names of the conversions that the options ask for. -/
def conversionSymbols (binding : Binding) : List String :=
  (if binding.options.emitsFromJson then [binding.functionName "FromJSON"] else []) ++
    (if binding.options.emitsToJson then [binding.functionName "ToJSON"] else []) ++
    if binding.options.emitsToNumber then [binding.functionName "ToNumber"] else []

/-- The conversions that are written whole: those before the first with too long a number. -/
def wholeConversions (limits : Limits) (conversions : List Conversion) : List Conversion :=
  conversions.takeWhile (·.fragment.fits limits)

/-- The names that are noted for a declaration: only its own if a number in it is too long. -/
def notedDeclaration (limits : Limits) (binding : Binding) : List String :=
  if binding.declarationFragment.fits limits then binding.declaredSymbols
  else [binding.declaredName]

/-- The names of the conversions that are noted, if the declaration fits: the last one is that of
the first conversion with too long a number. -/
def notedConversions (limits : Limits) (binding : Binding) : List String :=
  if binding.declarationFragment.fits limits then
    binding.conversionSymbols.take ((wholeConversions limits binding.conversions).length + 1)
  else []

/-- The first conversion between members and JSON that the options ask for is written whole. -/
def WritesJson (limits : Limits) (binding : Binding) : Prop :=
  binding.declarationFragment.fits limits = true ∧
    if binding.options.emitsFromJson then
      (binding.fromJson binding.sentinel).fragment.fits limits = true
    else binding.options.emitsToJson = true ∧
      (binding.toJson binding.sentinel).fragment.fits limits = true

end Binding

namespace Step

/-- The fragments of a step. A name or a helper alone is a fragment without lines. -/
def fragments : Step → List Fragment
  | .define symbol => [⟨[symbol], false, [], []⟩]
  | .append lines => [⟨[], false, lines, []⟩]
  | .require name => if name = globalObjectName then [⟨[], true, [], []⟩] else []
  | .enum binding => if binding.enum.fullName = "" then [] else binding.fragments
  | .declaration binding => [binding.declarationFragment]
  | .fromJson binding sentinel => [(binding.fromJson sentinel).fragment]
  | .toJson binding sentinel => [(binding.toJson sentinel).fragment]
  | .toNumber binding sentinel => [(binding.toNumber sentinel).fragment]

/-- What a step adds to a draft. -/
def contents (limits : Limits) (step : Step) : List Fragment :=
  Fragment.written limits step.fragments

/-- How a step is refused: the name that it asks for is no helper's, or the enumeration that it is
to write has no full name. -/
inductive Refused : Step → WriteError → Prop
  | unknownHelper {name : String} : name ≠ "tsProtoGlobalThis" →
      Refused (.require name) (.unknownHelper ⟨name⟩)
  | unnamed {binding : Binding} : binding.enum.fullName = "" →
      Refused (.enum binding) (.refused
        ⟨.emptyName, if binding.enum.name = "" then none else some binding.enum.name⟩)

/-- How a step fails: it is refused, or a number that it has to spell is too long. -/
inductive Fails (limits : Limits) : Step → WriteError → Prop
  | refused {step : Step} {error : WriteError} : step.Refused error → Fails limits step error
  | longNumber {step : Step} {fragment : Fragment} {number : Int} : fragment ∈ step.fragments →
      number ∈ fragment.numbers → limits.allowsNumber number = false →
      Fails limits step .longNumber

/-- The names that a step notes, in order. -/
def symbols (limits : Limits) : Step → List String
  | .define symbol => [symbol]
  | .append _ => []
  | .require _ => []
  | .enum binding =>
    if binding.enum.fullName = "" then []
    else binding.notedDeclaration limits ++ binding.notedConversions limits
  | .declaration binding => binding.notedDeclaration limits
  | .fromJson binding _ => [binding.functionName "FromJSON"]
  | .toJson binding _ => [binding.functionName "ToJSON"]
  | .toNumber binding _ => [binding.functionName "ToNumber"]

/-- A step that asks for the helper: by its name, or by writing a conversion between members and
JSON for options without a sentinel. -/
def AsksForHelper (limits : Limits) : Step → Prop
  | .define _ => False
  | .append _ => False
  | .require name => name = "tsProtoGlobalThis"
  | .enum binding => binding.enum.fullName ≠ "" ∧ binding.options.sentinel = false ∧
      binding.WritesJson limits
  | .declaration _ => False
  | .fromJson binding sentinel => binding.options.sentinel = false ∧
      (binding.fromJson sentinel).fragment.fits limits = true
  | .toJson binding sentinel => binding.options.sentinel = false ∧
      (binding.toJson sentinel).fragment.fits limits = true
  | .toNumber _ _ => False

/-- What a step answers if it does not fail. -/
def answer : Step → StepAnswer
  | .define symbol => .name symbol
  | .append _ => .nothing
  | .require name => .name name
  | .enum binding => .sentinel binding.sentinel
  | .declaration binding => .sentinel binding.sentinel
  | .fromJson binding _ => .name (binding.functionName "FromJSON")
  | .toJson binding _ => .name (binding.functionName "ToJSON")
  | .toNumber binding _ => .name (binding.functionName "ToNumber")

end Step

/-- A draft that accounts for steps. -/
structure Draft.AccountsFor (limits : Limits) (draft : Draft) (steps : List Step) : Prop where
  nodup : draft.definitions.Nodup
  /-- The names are those that the steps note, each where it is noted first. -/
  definitions : draft.definitions = (steps.flatMap (Step.symbols limits)).eraseDups
  visible : ∀ text ∈ draft.fragments, ∃ c ∈ text.toList, Text.isBlank c = false
  /-- The helpers are among those that have code. -/
  known : ∀ helper ∈ draft.helpers, Helper.ofName? helper.name = some helper
  helper : .globalObject ∈ draft.helpers ↔ ∃ step ∈ steps, step.AsksForHelper limits

/-- A draft that another one extends. -/
structure Draft.ExtendedBy (draft next : Draft) : Prop where
  definitions : draft.definitions <+: next.definitions
  fragments : draft.fragments <+: next.fragments
  helpers : draft.helpers ⊆ next.helpers

/-! ## A step adds its contents -/

namespace Writing

variable {limits : Limits}

/-- A name alone is only noted. -/
theorem writes_define (limits : Limits) (symbol : String) :
    Writes limits (define symbol) [⟨[symbol], false, [], []⟩] :=
  fun draft => congrArg (Prod.mk _) (Draft.append_nil (draft.define symbol)).symm

/-- A helper alone is only noted. -/
theorem writes_require (limits : Limits) :
    Writes limits (require globalObjectName) [⟨[], true, [], []⟩] :=
  fun draft => congrArg (Prod.mk _) (Draft.append_nil (draft.require .globalObject)).symm

/-- Lines alone are added. -/
theorem writes_append (limits : Limits) (lines : List String) :
    Writes limits (append lines) [⟨[], false, lines, []⟩] :=
  fun _ => rfl

/-- What writes fragments answers if they are written whole. -/
theorem Writes.answer {writing : Writing Unit} {fragments : List Fragment}
    (hwrites : Writes limits writing fragments) (answer : StepAnswer) (draft : Draft) :
    (writing >>= fun _ => pure answer).runOn draft =
      ((Fragment.ending limits fragments).map fun _ => answer,
        draft.addAll (Fragment.written limits fragments)) := by
  rw [runOn_bind_eq, hwrites draft]
  cases Fragment.ending limits fragments <;> rfl

end Writing

namespace Draft

variable {limits : Limits} {draft : Draft} {step : Step} {error : WriteError}

/-- A step that is refused changes nothing. -/
theorem perform_of_refused (hrefused : step.Refused error) (limits : Limits) (draft : Draft) :
    draft.perform limits step = (.error error, draft) := by
  cases hrefused with
  | @unknownHelper name hname =>
    have hnone : Helper.ofName? name = none := if_neg hname
    simp only [perform, Writing.step, Writing.require, hnone]
    rfl
  | @unnamed binding hempty =>
    exact Writing.runOn_bind_of_error (Writing.runOn_enum_of_unnamed hempty draft) _

/-- Any other step adds its contents. -/
theorem perform_of_not_refused (hrefused : ∀ error, ¬ step.Refused error) (limits : Limits)
    (draft : Draft) :
    draft.perform limits step =
      ((Fragment.ending limits step.fragments).map fun _ => step.answer,
        draft.addAll (step.contents limits)) := by
  cases step with
  | define symbol => exact (Writing.writes_define limits symbol).answer _ draft
  | append lines => exact (Writing.writes_append limits lines).answer _ draft
  | require name =>
    have hname : name = globalObjectName := by_contra fun hname => hrefused _ (.unknownHelper hname)
    rw [Step.contents, Step.fragments, if_pos hname, hname]
    exact (Writing.writes_require limits).answer _ draft
  | enum binding =>
    have hname : binding.enum.fullName ≠ "" := fun hempty => hrefused _ (.unnamed hempty)
    rw [Step.contents, Step.fragments, if_neg hname]
    exact (Writing.writes_enum limits hname).answer _ draft
  | declaration binding => exact (Writing.writes_declare limits binding).answer _ draft
  | fromJson binding sentinel => exact (Writing.writes_convert limits _).answer _ draft
  | toJson binding sentinel => exact (Writing.writes_convert limits _).answer _ draft
  | toNumber binding sentinel => exact (Writing.writes_convert limits _).answer _ draft

/-- A step is refused on every draft or on none. -/
theorem exists_refused_or (step : Step) :
    (∃ error, step.Refused error) ∨ ∀ error, ¬ step.Refused error := by
  by_cases hrefused : ∃ error, step.Refused error
  · exact .inl hrefused
  · exact .inr (not_exists.mp hrefused)

/-- A step that is refused has no fragments. -/
theorem fragments_of_refused (hrefused : step.Refused error) : step.fragments = [] := by
  cases hrefused with
  | unknownHelper hname => exact if_neg hname
  | unnamed hempty => exact if_pos hempty

/-- The writing of fragments ends with an error exactly if a number in them is too long. -/
theorem ending_eq_error_iff {fragments : List Fragment} :
    Fragment.ending limits fragments = .error error ↔
      error = .longNumber ∧ ∃ fragment ∈ fragments, ∃ number ∈ fragment.numbers,
        limits.allowsNumber number = false := by
  have hlong : fragments.all (·.fits limits) = false ↔ ∃ fragment ∈ fragments,
      ∃ number ∈ fragment.numbers, limits.allowsNumber number = false := by
    simp [List.all_eq_false, Fragment.fits]
  rw [← hlong, Fragment.ending]
  cases fragments.all (·.fits limits) <;> simp [eq_comm]

/-- A step fails on a draft exactly if it fails on every draft. -/
theorem perform_eq_error_iff :
    (draft.perform limits step).1 = .error error ↔ step.Fails limits error := by
  rcases exists_refused_or step with ⟨other, hother⟩ | hnone
  · rw [perform_of_refused hother]
    constructor
    · intro herror
      exact .refused (Except.error.inj herror ▸ hother)
    · intro hfails
      cases hfails with
      | refused hrefused => cases hother <;> cases hrefused <;> rfl
      | longNumber hfragment =>
        rw [fragments_of_refused hother] at hfragment
        cases hfragment
  · rw [perform_of_not_refused hnone]
    have hending : (Fragment.ending limits step.fragments).map (fun _ => step.answer) =
        .error error ↔ Fragment.ending limits step.fragments = .error error := by
      cases Fragment.ending limits step.fragments <;> simp [Except.map]
    rw [hending, ending_eq_error_iff]
    constructor
    · rintro ⟨rfl, fragment, hfragment, number, hnumber, hlong⟩
      exact .longNumber hfragment hnumber hlong
    · intro hfails
      cases hfails with
      | refused hrefused => exact absurd hrefused (hnone _)
      | longNumber hfragment hnumber hlong => exact ⟨rfl, _, hfragment, _, hnumber, hlong⟩

/-- A step that does not fail answers and adds its fragments whole. -/
theorem perform_of_not_fails (hfails : ∀ error, ¬ step.Fails limits error) (draft : Draft) :
    draft.perform limits step = (.ok step.answer, draft.addAll step.fragments) := by
  have hfits : step.fragments.all (·.fits limits) = true := by
    by_contra hlong
    rw [Bool.not_eq_true] at hlong
    have hending := Fragment.ending_of_not_fits hlong
    obtain ⟨_, fragment, hfragment, number, hnumber, htoo⟩ := ending_eq_error_iff.mp hending
    exact hfails _ (.longNumber hfragment hnumber htoo)
  rw [perform_of_not_refused fun error hrefused => hfails error (.refused hrefused), Step.contents,
    Fragment.ending_of_fits hfits, Fragment.written_of_fits hfits]
  rfl

/-- Every step adds its contents, whatever it finds and however it ends. -/
theorem afterStep_eq (limits : Limits) (draft : Draft) (step : Step) :
    draft.afterStep limits step = draft.addAll (step.contents limits) := by
  unfold afterStep
  rcases exists_refused_or step with ⟨error, hrefused⟩ | hnone
  · rw [perform_of_refused hrefused, Step.contents, fragments_of_refused hrefused]
    rfl
  · rw [perform_of_not_refused hnone]

/-- Steps add their contents in order. -/
theorem afterSteps_eq (limits : Limits) (draft : Draft) (steps : List Step) :
    draft.afterSteps limits steps = draft.addAll (steps.flatMap (Step.contents limits)) := by
  unfold afterSteps
  induction steps generalizing draft with
  | nil => rfl
  | cons step steps ih =>
    rw [List.foldl_cons, ih, afterStep_eq, List.flatMap_cons, addAll_append]

/-! ## What a draft remembers -/

/-- A name is noted unless it was noted before. -/
theorem definitions_define {names : List String} (hnames : draft.definitions = names.eraseDups)
    (symbol : String) : (draft.define symbol).definitions = (names ++ [symbol]).eraseDups := by
  have hmem : symbol ∈ draft.definitions ↔ symbol ∈ names := by rw [hnames, List.mem_eraseDups]
  rw [List.eraseDups_append, ← hnames]
  unfold define
  by_cases hknown : symbol ∈ names
  · rw [if_pos (hmem.mpr hknown)]
    simp [List.removeAll, hknown]
  · rw [if_neg (mt hmem.mp hknown)]
    simp [List.removeAll, hknown, List.eraseDups_cons]

theorem definitions_defineAll {names : List String} (hnames : draft.definitions = names.eraseDups)
    (symbols : List String) :
    (symbols.foldl define draft).definitions = (names ++ symbols).eraseDups := by
  induction symbols generalizing draft names with
  | nil => rw [List.append_nil]; exact hnames
  | cons symbol symbols ih =>
    rw [List.foldl_cons, ih (definitions_define hnames symbol), List.append_assoc,
      List.singleton_append]

/-- The names of a fragment are noted in order. -/
theorem definitions_add {names : List String} (hnames : draft.definitions = names.eraseDups)
    (fragment : Fragment) :
    (draft.add fragment).definitions = (names ++ fragment.symbols).eraseDups := by
  rw [← definitions_defineAll hnames fragment.symbols]
  unfold add append
  cases fragment.needsGlobalObject <;> rfl

/-- The names of a draft are those of its fragments, each where it comes first. -/
theorem definitions_addAll {names : List String} (hnames : draft.definitions = names.eraseDups)
    (fragments : List Fragment) :
    (draft.addAll fragments).definitions =
      (names ++ fragments.flatMap (·.symbols)).eraseDups := by
  unfold addAll
  induction fragments generalizing draft names with
  | nil => rw [List.flatMap_nil, List.append_nil]; exact hnames
  | cons fragment fragments ih =>
    rw [List.foldl_cons, ih (definitions_add hnames fragment), List.flatMap_cons,
      List.append_assoc]

/-- A list that keeps the first of equal items has no two equal items. -/
theorem nodup_eraseDups (names : List String) : names.eraseDups.Nodup := by
  induction names using List.reverseRecOn with
  | nil => rw [List.eraseDups_nil]; exact List.nodup_nil
  | append_singleton names name ih =>
    rw [List.eraseDups_append]
    by_cases hknown : name ∈ names
    · simpa [List.removeAll, hknown] using ih
    · have hnew : name ∉ names.eraseDups := mt List.mem_eraseDups.mp hknown
      simpa [List.removeAll, hknown, List.eraseDups_cons] using ih.concat hnew

/-- A fragment is dropped unless it has visible text. -/
theorem exists_visible_of_mem_visibleCode {lines : List String} {text : String}
    (htext : text ∈ visibleCode lines) : ∃ c ∈ text.toList, Text.isBlank c = false := by
  unfold visibleCode at htext
  simp only at htext
  split at htext
  · cases htext
  · rename_i hvisible
    rw [List.mem_singleton] at htext
    rw [List.isEmpty_iff, Text.trim_eq_nil_iff, ← htext] at hvisible
    simpa using hvisible

end Draft

/-! ## What the contents of a step are -/

namespace Binding

variable {limits : Limits} {binding : Binding} {conversion first : Conversion}
  {conversions rest : List Conversion}

theorem wholeConversions_cons_of_fits (hfits : conversion.fragment.fits limits = true) :
    wholeConversions limits (conversion :: conversions) =
      conversion :: wholeConversions limits conversions :=
  List.takeWhile_cons_of_pos hfits

theorem wholeConversions_cons_of_not_fits (hfits : conversion.fragment.fits limits = false) :
    wholeConversions limits (conversion :: conversions) = [] :=
  List.takeWhile_cons_of_neg (by simp [hfits])

/-- The names that are noted of conversions are those up to the first with too long a number. -/
theorem flatMap_symbols_conversions (limits : Limits) (conversions : List Conversion) :
    (Fragment.written limits (conversions.map (·.fragment))).flatMap (·.symbols) =
      (conversions.map (·.name)).take ((wholeConversions limits conversions).length + 1) := by
  induction conversions with
  | nil => rfl
  | cons conversion conversions ih =>
    rw [List.map_cons, List.map_cons, List.take_succ_cons]
    cases hfits : conversion.fragment.fits limits with
    | true =>
      rw [Fragment.written_cons_of_fits hfits, List.flatMap_cons, ih,
        wholeConversions_cons_of_fits hfits, List.length_cons]
      rfl
    | false =>
      rw [Fragment.written_cons_of_not_fits hfits, wholeConversions_cons_of_not_fits hfits]
      rfl

/-- The names of what is written for a declaration are those that are noted for it. -/
theorem flatMap_symbols_declaration (limits : Limits) (binding : Binding) :
    (Fragment.written limits [binding.declarationFragment]).flatMap (·.symbols) =
      binding.notedDeclaration limits := by
  unfold notedDeclaration
  cases hfits : binding.declarationFragment.fits limits with
  | true =>
    rw [Fragment.written_cons_of_fits hfits]
    exact List.append_nil _
  | false =>
    rw [Fragment.written_cons_of_not_fits hfits]
    rfl

/-- The names of what is written for a binding are those that are noted for it. -/
theorem flatMap_symbols_fragments (limits : Limits) (binding : Binding) :
    (Fragment.written limits binding.fragments).flatMap (·.symbols) =
      binding.notedDeclaration limits ++ binding.notedConversions limits := by
  have hnames : binding.conversions.map (·.name) = binding.conversionSymbols := by
    unfold Binding.conversions conversionSymbols
    cases binding.options.emitsFromJson <;> cases binding.options.emitsToJson <;>
      cases binding.options.emitsToNumber <;> rfl
  rw [← flatMap_symbols_declaration, notedConversions, fragments]
  cases hfits : binding.declarationFragment.fits limits with
  | true =>
    rw [Fragment.written_cons_of_fits hfits, Fragment.written_cons_of_fits hfits, if_pos rfl,
      List.flatMap_cons, flatMap_symbols_conversions, hnames, Fragment.written, List.flatMap_cons,
      List.flatMap_nil, List.append_nil]
  | false =>
    rw [Fragment.written_cons_of_not_fits hfits, Fragment.written_cons_of_not_fits hfits,
      if_neg Bool.false_ne_true, List.append_nil]

/-- What is begun and not written whole needs no helper. -/
theorem any_needsGlobalObject_conversions (limits : Limits) (conversions : List Conversion) :
    (Fragment.written limits (conversions.map (·.fragment))).any (·.needsGlobalObject) =
      (wholeConversions limits conversions).any (·.refuses) := by
  induction conversions with
  | nil => rfl
  | cons conversion conversions ih =>
    rw [List.map_cons]
    cases hfits : conversion.fragment.fits limits with
    | true =>
      rw [Fragment.written_cons_of_fits hfits, wholeConversions_cons_of_fits hfits, List.any_cons,
        List.any_cons, ih]
      rfl
    | false =>
      rw [Fragment.written_cons_of_not_fits hfits, wholeConversions_cons_of_not_fits hfits]
      rfl

/-- Only without a sentinel a conversion refuses something. -/
theorem sentinel_of_refuses (hconversion : conversion ∈ binding.conversions)
    (hrefuses : conversion.refuses = true) : binding.options.sentinel = false := by
  rcases eq_of_mem_conversions hconversion with rfl | rfl | rfl
  · rwa [refuses_fromJson, Bool.not_eq_true'] at hrefuses
  · rwa [refuses_toJson, Bool.not_eq_true'] at hrefuses
  · rw [refuses_toNumber] at hrefuses
    cases hrefuses

/-- If the first conversion refuses something without a sentinel, then what is written whole refuses
something exactly if there is no sentinel and the first conversion is written whole. -/
theorem any_refuses_wholeConversions (hconversions : binding.conversions = first :: rest)
    (hfirst : first.refuses = !binding.options.sentinel) :
    (wholeConversions limits binding.conversions).any (·.refuses) = true ↔
      binding.options.sentinel = false ∧ first.fragment.fits limits = true := by
  rw [List.any_eq_true]
  constructor
  · rintro ⟨conversion, hconversion, hrefuses⟩
    refine ⟨sentinel_of_refuses ((List.takeWhile_sublist _).subset hconversion) hrefuses, ?_⟩
    by_contra hlong
    rw [Bool.not_eq_true] at hlong
    rw [hconversions, wholeConversions_cons_of_not_fits hlong] at hconversion
    cases hconversion
  · rintro ⟨hoff, hfits⟩
    refine ⟨first, ?_, by rw [hfirst, hoff]; rfl⟩
    rw [hconversions, wholeConversions_cons_of_fits hfits]
    exact List.mem_cons_self

/-- What is written for a binding needs the helper exactly if there is no sentinel and a conversion
between members and JSON is written whole. -/
theorem any_needsGlobalObject_written (limits : Limits) (binding : Binding) :
    (Fragment.written limits binding.fragments).any (·.needsGlobalObject) = true ↔
      binding.options.sentinel = false ∧ binding.WritesJson limits := by
  rw [fragments, WritesJson]
  cases hfits : binding.declarationFragment.fits limits with
  | false =>
    rw [Fragment.written_cons_of_not_fits hfits]
    exact iff_of_false Bool.false_ne_true fun hwrites => Bool.false_ne_true hwrites.2.1
  | true =>
    have hnone : binding.declarationFragment.needsGlobalObject = false := rfl
    rw [Fragment.written_cons_of_fits hfits, List.any_cons, any_needsGlobalObject_conversions,
      hnone, Bool.false_or, eq_self_iff_true, true_and]
    cases hfrom : binding.options.emitsFromJson with
    | true =>
      obtain ⟨rest, hconversions⟩ :
          ∃ rest, binding.conversions = binding.fromJson binding.sentinel :: rest :=
        ⟨_, by rw [Binding.conversions, hfrom]; rfl⟩
      exact any_refuses_wholeConversions hconversions (refuses_fromJson _ _)
    | false =>
      cases hto : binding.options.emitsToJson with
      | true =>
        obtain ⟨rest, hconversions⟩ :
            ∃ rest, binding.conversions = binding.toJson binding.sentinel :: rest :=
          ⟨_, by rw [Binding.conversions, hfrom, hto]; rfl⟩
        rw [any_refuses_wholeConversions hconversions (refuses_toJson _ _)]
        simp
      | false =>
        have hrefuses : binding.conversions.any (·.refuses) = false := by
          rw [any_refuses_conversions, hfrom, hto, Bool.or_false, Bool.and_false]
        rw [List.any_eq_false] at hrefuses
        refine iff_of_false ?_ (by simp)
        rw [List.any_eq_true]
        rintro ⟨conversion, hconversion, hyes⟩
        exact hrefuses conversion ((List.takeWhile_sublist _).subset hconversion) hyes

end Binding

namespace Step

/-- The names of the contents are those that the step notes. -/
theorem flatMap_symbols_contents (limits : Limits) (step : Step) :
    (step.contents limits).flatMap (·.symbols) = step.symbols limits := by
  have hconversion (conversion : Conversion) :
      (Fragment.written limits [conversion.fragment]).flatMap (·.symbols) = [conversion.name] := by
    have hnames := Binding.flatMap_symbols_conversions limits [conversion]
    rwa [List.map_singleton, List.map_singleton, List.take_succ_cons, List.take_nil] at hnames
  unfold contents
  cases step with
  | require name =>
    rw [fragments]
    split <;> rfl
  | enum binding =>
    rw [fragments, symbols]
    split
    · rfl
    · exact binding.flatMap_symbols_fragments limits
  | declaration binding => exact binding.flatMap_symbols_declaration limits
  | fromJson binding sentinel => exact hconversion _
  | toJson binding sentinel => exact hconversion _
  | toNumber binding sentinel => exact hconversion _
  | _ => rfl

/-- A fragment of the contents needs the helper exactly if the step asks for it. -/
theorem any_needsGlobalObject_contents (limits : Limits) (step : Step) :
    (step.contents limits).any (·.needsGlobalObject) = true ↔ step.AsksForHelper limits := by
  have hconversion (conversion : Conversion) :
      (Fragment.written limits [conversion.fragment]).any (·.needsGlobalObject) = true ↔
        conversion.refuses = true ∧ conversion.fragment.fits limits = true := by
    cases hfits : conversion.fragment.fits limits with
    | true =>
      rw [Fragment.written_cons_of_fits hfits]
      simp [Fragment.written, Conversion.fragment]
    | false =>
      rw [Fragment.written_cons_of_not_fits hfits]
      simp [Fragment.begun]
  unfold contents
  cases step with
  | require name =>
    rw [fragments, AsksForHelper]
    split
    · next hname => exact iff_of_true rfl hname
    · next hname => exact iff_of_false Bool.false_ne_true hname
  | enum binding =>
    rw [fragments, AsksForHelper]
    split
    · next hempty => exact iff_of_false Bool.false_ne_true fun hasks => hasks.1 hempty
    · next hname =>
      rw [binding.any_needsGlobalObject_written]
      simp [hname]
  | declaration binding =>
    rw [fragments]
    cases hfits : binding.declarationFragment.fits limits with
    | true =>
      rw [Fragment.written_cons_of_fits hfits]
      exact iff_of_false Bool.false_ne_true not_false
    | false =>
      rw [Fragment.written_cons_of_not_fits hfits]
      exact iff_of_false Bool.false_ne_true not_false
  | fromJson binding sentinel =>
    rw [fragments, hconversion, Binding.refuses_fromJson, Bool.not_eq_true']
    rfl
  | toJson binding sentinel =>
    rw [fragments, hconversion, Binding.refuses_toJson, Bool.not_eq_true']
    rfl
  | toNumber binding sentinel =>
    rw [fragments, hconversion, Binding.refuses_toNumber]
    exact iff_of_false (fun hrefuses => Bool.false_ne_true hrefuses.1) not_false
  | _ => exact iff_of_false Bool.false_ne_true not_false

end Step

namespace Draft

variable {limits : Limits}

/-- The helper is among those of a draft exactly if it has been noted. -/
theorem globalObject_mem_helpers {draft : Draft} :
    .globalObject ∈ draft.helpers ↔ draft.needsGlobalObject = true := by
  unfold helpers
  split
  · next hneeds => exact iff_of_true (List.mem_singleton_self _) hneeds
  · next hneeds => exact iff_of_false List.not_mem_nil hneeds

/-- A draft accounts for the steps that it was written by. -/
theorem accountsFor_afterSteps (limits : Limits) (steps : List Step) :
    (afterSteps limits {} steps).AccountsFor limits steps := by
  have hnone : ({} : Draft).definitions = [].eraseDups := List.eraseDups_nil.symm
  have hdefinitions : (afterSteps limits {} steps).definitions =
      (steps.flatMap (Step.symbols limits)).eraseDups := by
    rw [afterSteps_eq, definitions_addAll hnone, List.nil_append, List.flatMap_assoc]
    simp only [Step.flatMap_symbols_contents]
  refine ⟨hdefinitions ▸ nodup_eraseDups _, hdefinitions, ?_, ?_, ?_⟩
  · intro text htext
    rw [afterSteps_eq, fragments_addAll, List.nil_append] at htext
    obtain ⟨fragment, _, hcode⟩ := List.mem_flatMap.mp htext
    exact exists_visible_of_mem_visibleCode hcode
  · rintro ⟨⟩ _
    rfl
  · rw [globalObject_mem_helpers, afterSteps_eq, needsGlobalObject_addAll, Bool.false_or,
      List.any_flatMap, List.any_eq_true]
    simp only [Step.any_needsGlobalObject_contents]

/-- Further steps extend a draft that was written by steps. -/
theorem extendedBy_afterSteps (limits : Limits) (steps more : List Step) :
    (afterSteps limits {} steps).ExtendedBy (afterSteps limits {} (steps ++ more)) := by
  refine ⟨?_, ?_, ?_⟩
  · rw [(accountsFor_afterSteps limits steps).definitions,
      (accountsFor_afterSteps limits _).definitions, List.flatMap_append, List.eraseDups_append]
    exact List.prefix_append _ _
  · rw [afterSteps_eq, afterSteps_eq, fragments_addAll, fragments_addAll, List.flatMap_append,
      List.flatMap_append, List.nil_append, List.nil_append]
    exact List.prefix_append _ _
  · intro helper hhelper
    cases helper
    rw [(accountsFor_afterSteps limits _).helper] at hhelper ⊢
    obtain ⟨step, hstep, hasks⟩ := hhelper
    exact ⟨step, List.mem_append_left _ hstep, hasks⟩

/-- After any steps a draft accounts for all of them: its names are those that the steps note, each
once and in the order of their first mention, its fragments are visible, and the helper is noted
exactly if some step asked for it. Further steps only extend the draft. What a step adds to the
fragments does not depend on the draft, and neither does how it fails. A step that does not fail
answers and adds its fragments whole; one that is refused changes nothing; and one that comes to a
number that is too long leaves what it had written until then. -/
theorem afterSteps_invariants (limits : Limits) :
    (∀ steps : List Step, (afterSteps limits {} steps).AccountsFor limits steps) ∧
    (∀ steps more : List Step,
      (afterSteps limits {} steps).ExtendedBy (afterSteps limits {} (steps ++ more))) ∧
    (∀ step : Step, ∃ texts : List String, ∀ draft : Draft,
      (draft.afterStep limits step).fragments = draft.fragments ++ texts) ∧
    (∀ (draft : Draft) (step : Step) (error : WriteError),
      (draft.perform limits step).1 = .error error ↔ step.Fails limits error) ∧
    (∀ (draft : Draft) (step : Step), (∀ error, ¬ step.Fails limits error) →
      draft.perform limits step = (.ok step.answer, draft.addAll step.fragments)) ∧
    (∀ (draft : Draft) (step : Step) (error : WriteError), step.Refused error →
      draft.perform limits step = (.error error, draft)) ∧
    ∀ (draft : Draft) (step : Step), step.Fails limits .longNumber →
      draft.perform limits step = (.error .longNumber, draft.addAll (step.contents limits)) := by
  refine ⟨accountsFor_afterSteps limits, extendedBy_afterSteps limits, fun step => ?_,
    fun draft step error => perform_eq_error_iff, fun draft step hfails => ?_,
    fun draft step error hrefused => perform_of_refused hrefused limits draft,
    fun draft step hfails => ?_⟩
  · refine ⟨(step.contents limits).flatMap (visibleCode ·.lines), fun draft => ?_⟩
    rw [afterStep_eq, fragments_addAll]
  · exact perform_of_not_fails hfails draft
  · exact Prod.ext (perform_eq_error_iff.mpr hfails) (afterStep_eq limits draft step)

/-- A helper that is not known is asked for between two steps that note the same name. -/
theorem afterSteps_invariants_unknownHelper :
    (afterSteps {} {} [.define "Signal", .require "lodash", .define "Signal"]).definitions =
      ["Signal"] ∧
    ∀ draft : Draft, draft.perform {} (.require "lodash") =
      (.error (.unknownHelper ⟨"lodash"⟩), draft) := by
  obtain ⟨haccounts, _, _, _, _, hrefused, _⟩ := afterSteps_invariants {}
  refine ⟨(haccounts _).definitions.trans (by decide), fun draft => ?_⟩
  exact hrefused draft (.require "lodash") _ (.unknownHelper (by decide))

/-- A declaration that fails has noted its name: the code of its only value is too long. And of a
fragment not all of whose characters are blank something is kept, be it only a byte order mark. -/
theorem perform_declaration_farAway :
    perform (.ordinary 900) {} (.declaration ⟨farAway, {}⟩) =
      (.error .longNumber, { definitions := ["Far"] }) ∧
    (afterStep (.ordinary 900) {} (.append ["\uFEFF"])).fragments = ["\uFEFF"] := by
  refine ⟨?_, by decide⟩
  have hlong : (Binding.mk farAway {}).declarationFragment.fits (.ordinary 900) = false :=
    Binding.declarationFragment_fits_eq_false List.mem_cons_self rfl (allowsNumber_longNumber 900)
  rw [perform_of_not_refused (by rintro _ ⟨⟩), Step.contents, Step.fragments,
    Fragment.ending_of_not_fits (by simp [hlong]), Fragment.written_cons_of_not_fits hlong]
  rfl

end Draft

end EnumBindings
