import EnumBindings.Output.Pipeline
import EnumBindings.Proofs.Options.LastEntry
import EnumBindings.Proofs.Output.Assembly
import EnumBindings.Proofs.Schema.Contents
import EnumBindings.Script.Part

/-!
# How a run may fail

The option string is read first, then the document; then the module is generated. A run fails on its
option string alone, or else on its document, where an integer that is too long or too much nesting
is reported only if it stands in a text. What has been loaded is generated, unless a document that
is handed in as it is holds an integer that is too long to be written.
-/

namespace EnumBindings

open Script

variable {content : Content} {limits : Limits} {parameter : Option String} {options : Options}
  {enums : List EnumDescriptor} {source code : String}

/-- The sentinel of an option string has a code that may be written. -/
theorem allowsNumber_sentinelCode_of_parse
    (hparse : (Options.parse parameter {}).outcome = .ok options) :
    limits.allowsNumber options.sentinelCode = true := by
  have hordinary : (Limits.ordinary 0).allowsNumber options.sentinelCode = true := by
    rcases sentinelCode_of_parse hparse 0 with hbase | hallowed
    · rw [hbase]
      decide
    · exact hallowed
  exact Limits.allowsNumber_of_ordinary hordinary limits

/-- What has been loaded can be written, if the numbers of a decoded document can. -/
theorem writable_of_loadDescriptors (hload : (loadDescriptors content limits).outcome = .ok enums)
    (hsentinel : limits.allowsNumber options.sentinelCode = true)
    (hdecoded : ∀ document, content = .decoded document → ∀ number,
      document.HasInteger number → limits.allowsNumber number = true) :
    ∀ enum ∈ enums, enum.Writable options limits := by
  intro enum henum
  refine EnumDescriptor.writable_of_codes ?_ ?_ hsentinel
  · exact (named_of_loadDescriptors hload enum henum).fullName
  · intro value hvalue
    exact allowsNumber_of_loadDescriptors hload henum hvalue hdecoded

/-! ## The stages of a run -/

/-- The outcome of a run is that of its stages in turn. -/
theorem outcome_generateFrom (content : Content) (parameter : Option String) (source : String)
    (limits : Limits) :
    (generateFrom content parameter source limits).outcome =
      (Options.parse parameter {}).outcome.mapError Failure.options >>= fun options =>
        (loadDescriptors content limits).outcome.mapError Failure.loading >>= fun enums =>
          (generateModule enums options source limits).outcome.mapError Failure.writing := by
  unfold generateFrom
  simp only [Reported.outcome_bind, Reported.outcome_mapError]

/-- A run fails on its option string alone. -/
theorem outcome_generateFrom_of_options {error : OptionsError}
    (hparse : (Options.parse parameter {}).outcome = .error error) (content : Content)
    (source : String) (limits : Limits) :
    (generateFrom content parameter source limits).outcome = .error (.options error) := by
  rw [outcome_generateFrom, hparse]
  rfl

/-- A run fails on its document if its option string is right. -/
theorem outcome_generateFrom_of_loading {error : LoadError}
    (hparse : (Options.parse parameter {}).outcome = .ok options)
    (hload : (loadDescriptors content limits).outcome = .error error) (source : String) :
    (generateFrom content parameter source limits).outcome = .error (.loading error) := by
  rw [outcome_generateFrom, hparse, hload]
  rfl

/-- Otherwise the run ends as the generation of the module does. -/
theorem outcome_generateFrom_of_loaded
    (hparse : (Options.parse parameter {}).outcome = .ok options)
    (hload : (loadDescriptors content limits).outcome = .ok enums) (source : String) :
    (generateFrom content parameter source limits).outcome =
      (generateModule enums options source limits).outcome.mapError Failure.writing := by
  rw [outcome_generateFrom, hparse, hload]
  rfl

/-- A run comes to one of four ends. -/
inductive RunsTo (limits : Limits) (content : Content) (parameter : Option String)
    (source : String) : Except Failure String → Prop
  /-- The option string is rejected, whatever the document is. -/
  | options {error : OptionsError} : (Options.parse parameter {}).outcome = .error error →
      RunsTo limits content parameter source (.error (.options error))
  /-- The document cannot be loaded. -/
  | loading {options : Options} {error : LoadError} :
      (Options.parse parameter {}).outcome = .ok options →
      (loadDescriptors content limits).outcome = .error error →
      RunsTo limits content parameter source (.error (.loading error))
  /-- The module cannot be written. -/
  | writing {options : Options} {enums : List EnumDescriptor} {error : WriteError} :
      (Options.parse parameter {}).outcome = .ok options →
      (loadDescriptors content limits).outcome = .ok enums →
      (generateModule enums options source limits).outcome = .error error →
      RunsTo limits content parameter source (.error (.writing error))
  /-- The module is generated. -/
  | code {options : Options} {enums : List EnumDescriptor} {code : String} :
      (Options.parse parameter {}).outcome = .ok options →
      (loadDescriptors content limits).outcome = .ok enums →
      (generateModule enums options source limits).outcome = .ok code →
      RunsTo limits content parameter source (.ok code)

/-- A run comes to such an end. -/
theorem runsTo_outcome (limits : Limits) (content : Content) (parameter : Option String)
    (source : String) :
    RunsTo limits content parameter source
      (generateFrom content parameter source limits).outcome := by
  cases hparse : (Options.parse parameter {}).outcome with
  | error error =>
    rw [outcome_generateFrom_of_options hparse]
    exact .options hparse
  | ok options =>
    cases hload : (loadDescriptors content limits).outcome with
    | error error =>
      rw [outcome_generateFrom_of_loading hparse hload]
      exact .loading hparse hload
    | ok enums =>
      rw [outcome_generateFrom_of_loaded hparse hload]
      cases hgenerate : (generateModule enums options source limits).outcome with
      | error error => exact .writing hparse hload hgenerate
      | ok code => exact .code hparse hload hgenerate

/-- The end of a run is its outcome. -/
theorem RunsTo.outcome_eq {outcome : Except Failure String}
    (hruns : RunsTo limits content parameter source outcome) :
    (generateFrom content parameter source limits).outcome = outcome := by
  cases hruns with
  | options hparse => exact outcome_generateFrom_of_options hparse content source limits
  | loading hparse hload => exact outcome_generateFrom_of_loading hparse hload source
  | writing hparse hload hgenerate =>
    rw [outcome_generateFrom_of_loaded hparse hload, hgenerate]
    rfl
  | code hparse hload hgenerate =>
    rw [outcome_generateFrom_of_loaded hparse hload, hgenerate]
    rfl

/-- What is generated within limits is generated without them. -/
theorem outcome_generateFrom_unlimited
    (hrun : (generateFrom content parameter source limits).outcome = .ok code) :
    (generateFrom content parameter source).outcome = .ok code := by
  have hruns := runsTo_outcome limits content parameter source
  rw [hrun] at hruns
  cases hruns with
  | code hparse hload hgenerate =>
    exact (RunsTo.code hparse (outcome_loadDescriptors_unlimited hload)
      (outcome_generateModule_unlimited hgenerate)).outcome_eq

/-! ## What may go wrong -/

/-- How a run may fail. A run ends with the error of its option string, whatever the document is;
otherwise with the error of its document; otherwise with a module. Too long an integer is the error
of a document only where a text has a row of so many digits, and too much nesting only where a text
is nested deeper than is allowed. What is loaded is named, so the generation of the module fails
only if a document that is handed in as it is holds an integer that is too long to be written: no
enumeration is refused, no helper is asked for that is not known, and the representation that the
options choose has code for all parts of a declaration. -/
theorem generateFrom_runsTo (content : Content) (parameter : Option String) (source : String)
    (limits : Limits) :
    (∀ outcome, (generateFrom content parameter source limits).outcome = outcome ↔
      RunsTo limits content parameter source outcome) ∧
    (∀ error, (loadDescriptors content limits).outcome = .error error →
      (∃ fault, error = .descriptor fault) ∨
        ∃ text, content.text? = some text ∧
          ((∃ digits, error = .longInteger digits ∧ HasDigitRow text.toList digits ∧
              4300 < digits) ∨
            ∃ container nesting, error = .tooDeep container ∧ limits.nesting = some nesting ∧
              NestsDeeper text.toList nesting)) ∧
    (∀ error, (generateFrom content parameter source limits).outcome = .error (.writing error) →
      error = .longNumber ∧ ∃ document number, content = .decoded document ∧
        document.HasInteger number ∧ limits.allowsNumber number = false) ∧
    ∀ enums, (loadDescriptors content limits).outcome = .ok enums →
      (∀ enum ∈ enums, enum.Named) ∧
      (∀ options : Options, limits.allowsNumber options.sentinelCode = true →
        (∀ document, content = .decoded document → ∀ number, document.HasInteger number →
          limits.allowsNumber number = true) →
        ∃ draft, (forM enums fun enum => Writing.enum limits ⟨enum, options⟩).runOn {} =
            (.ok (), draft) ∧
          (generateModule enums options source limits).outcome = .ok (draft.module source)) ∧
      ∀ (options : Options) (parts : List Part),
        ∃ codes, partCodes? (some (.ofOptions options)) parts = some codes := by
  refine ⟨fun outcome => ⟨?_, RunsTo.outcome_eq⟩, fun error => loadDescriptors_eq_error, ?_, ?_⟩
  · rintro rfl
    exact runsTo_outcome limits content parameter source
  · intro error hwriting
    have hruns := runsTo_outcome limits content parameter source
    rw [hwriting] at hruns
    cases hruns with
    | @writing options enums _ hparse hload hgenerate =>
      have hsentinel : limits.allowsNumber options.sentinelCode = true :=
        allowsNumber_sentinelCode_of_parse hparse
      have hnamed := fun enum henum => (named_of_loadDescriptors hload enum henum).fullName
      refine ⟨eq_longNumber_of_generateModule hnamed hgenerate, ?_⟩
      by_contra hshort
      have hdecoded : ∀ document, content = .decoded document → ∀ number,
          document.HasInteger number → limits.allowsNumber number = true := by
        intro document hcontent number hnumber
        by_contra hlong
        exact hshort ⟨document, number, hcontent, hnumber, Bool.eq_false_iff.mpr hlong⟩
      rw [outcome_generateModule_of_writable
        (writable_of_loadDescriptors hload hsentinel hdecoded)] at hgenerate
      cases hgenerate
  · intro enums hload
    refine ⟨named_of_loadDescriptors hload, fun options hsentinel hdecoded => ?_,
      fun options parts => ⟨_, partCodes?_some _ parts⟩⟩
    have henums := writable_of_loadDescriptors hload hsentinel hdecoded
    have hnamed := fun enum henum => (henums enum henum).fullName
    have hfits : (enums.flatMap fun enum => (Binding.mk enum options).fragments).all
        (·.fits limits) = true := by
      rw [List.all_flatMap, List.all_eq_true]
      exact fun enum henum => (henums enum henum).fits
    have hrun := Writing.writes_forM_enum limits options hnamed {}
    rw [Fragment.ending_of_fits hfits, Fragment.written_of_fits hfits] at hrun
    refine ⟨_, hrun, ?_⟩
    rw [generateModule, Reported.outcome_bind, outcome_addEnums henums]
    rfl

/-- A text of one integer with 4301 digits. -/
theorem outcome_loadDescriptors_nines :
    (loadDescriptors (.text (String.ofList (List.replicate 4301 '9'))) (.ordinary 900)).outcome =
      .error (.longInteger 4301) := by
  show (loadText (String.ofList _).toList _).outcome = _
  rw [String.toList_ofList]
  decide +kernel

/-- Behind a right option string the long integer is what is reported, and it stands in the text; a
document with an enumeration has a module under all options whose sentinel has a short code. -/
theorem generateFrom_runsTo_nines :
    (generateFrom (.text (String.ofList (List.replicate 4301 '9'))) (some "stringEnums=true")
      "" (.ordinary 900)).outcome = .error (.loading (.longInteger 4301)) ∧
    (∃ text : String, HasDigitRow text.toList 4301) ∧
    ∀ options : Options, (Limits.ordinary 900).allowsNumber options.sentinelCode = true →
      ∃ draft : Draft, (generateModule [⟨"Lamp", "Lamp", [⟨"ON", 1, false, none⟩], false, none⟩]
        options "" (.ordinary 900)).outcome = .ok (draft.module "") := by
  have hload : (loadDescriptors (.text ("\x7b\"enums\":[\x7b\"name\":\"Lamp\"," ++
        "\"values\":[\x7b\"name\":\"ON\",\"number\":1\x7d]\x7d]\x7d")) (.ordinary 900)).outcome =
      .ok [⟨"Lamp", "Lamp", [⟨"ON", 1, false, none⟩], false, none⟩] := by
    decide +kernel
  have hparse : (Options.parse (some "stringEnums=true") {}).outcome =
      .ok { stringEnums := true } := by
    decide +kernel
  obtain ⟨hruns, hfaults, _, _⟩ := generateFrom_runsTo
    (.text (String.ofList (List.replicate 4301 '9'))) (some "stringEnums=true") "" (.ordinary 900)
  obtain ⟨_, _, _, hloaded⟩ := generateFrom_runsTo _ none "" (.ordinary 900)
  refine ⟨(hruns _).mpr (.loading hparse outcome_loadDescriptors_nines), ?_,
    fun options hsentinel => ?_⟩
  · rcases hfaults _ outcome_loadDescriptors_nines with
      ⟨_, ⟨⟩⟩ | ⟨text, _, ⟨_, ⟨⟩, hrow, _⟩ | ⟨_, _, ⟨⟩, _, _⟩⟩
    exact ⟨text, hrow⟩
  · obtain ⟨draft, _, hmodule⟩ := (hloaded _ hload).2.1 options hsentinel (by rintro _ ⟨⟩)
    exact ⟨draft, hmodule⟩

/-- A text without digits may end a run with an error that is neither of its option string nor of
its document. -/
theorem outcome_generateFrom_brackets :
    (generateFrom (.text (String.ofList (List.replicate 20000 '['))) none ""
      (.ordinary 900)).outcome = .error (.loading (.tooDeep .list)) ∧
      ∀ c ∈ List.replicate 20000 '[', c.isDigit = false := by
  have hparse : (Options.parse none {}).outcome = .ok {} := rfl
  have hload : (loadDescriptors (.text (String.ofList (List.replicate 20000 '[')))
      (.ordinary 900)).outcome = .error (.tooDeep .list) := by
    show (loadText (String.ofList _).toList _).outcome = _
    rw [String.toList_ofList]
    unfold loadText decodeDocument
    rw [Json.read_brackets (show 900 < 20000 by decide)]
    rfl
  refine ⟨outcome_generateFrom_of_loading hparse hload "", fun c hc => ?_⟩
  rw [List.eq_of_mem_replicate hc]
  rfl

end EnumBindings
