import EnumBindings.Command.Run
import EnumBindings.Proofs.Command.Storing
import EnumBindings.Proofs.Output.Failures

/-!
# A run does all or nothing

A command line that can be carried out either fails, without touching any file, or writes exactly
the module that its option string and its descriptors come to, without touching any other file. This
is so whatever the limits of the run are: where it is interrupted, it has written nothing yet.
-/

namespace EnumBindings

/-- A command line that can be carried out on a tree: it names a source, which is a file with some
bytes, and a target, which is no directory, and may have an option string. -/
structure Usable (tree : FileTree) (arguments : List String) (source target : String)
    (parameter : Option String) (bytes : ByteArray) : Prop where
  read : ∃ known, Arguments.read arguments = some known ∧ known.help = false ∧
    known.positionals = [source, target] ∧ known.parameter = parameter
  source : tree.find? source = some (.file bytes)
  target : tree.find? target ≠ some .directory

/-- A text in which every line ends with a line feed alone. -/
def withLineFeeds (text : String) : String :=
  String.ofList (Text.unifyLineBreaks text.toList)

/-- Why a run cannot write a module: its option string is rejected, its source is no text, or one
whose descriptors cannot be loaded, or its target cannot be opened. -/
inductive Unwritable (limits : Limits) (tree : FileTree) (target : String)
    (parameter : Option String) (bytes : ByteArray) : Prop
  | options {error : OptionsError} : (Options.parse parameter {}).outcome = .error error →
      Unwritable limits tree target parameter bytes
  | notUtf8 : (∀ text : String, bytes ≠ text.toUTF8) →
      Unwritable limits tree target parameter bytes
  | descriptors {text : String} {error : LoadError} : bytes = text.toUTF8 →
      (loadDescriptors (.text (withLineFeeds text)) limits).outcome = .error error →
      Unwritable limits tree target parameter bytes
  | target : ¬ tree.Opens (Path.ofString target) → Unwritable limits tree target parameter bytes

/-- The module that a run is to write: the one for the descriptors in the text of its source, under
its option string and with the name of its source. -/
inductive Produces (limits : Limits) (source : String) (parameter : Option String)
    (bytes : ByteArray) : String → Prop
  | intro {text code : String} {options : Options} {enums : List EnumDescriptor} :
      bytes = text.toUTF8 →
      (Options.parse parameter {}).outcome = .ok options →
      (loadDescriptors (.text (withLineFeeds text)) limits).outcome = .ok enums →
      (generateModule enums options (Path.ofString source).name limits).outcome = .ok code →
      Produces limits source parameter bytes code

/-- A run that is no success: it ends with exit code 1, or is interrupted. -/
def Ending.IsFailure : Ending → Prop
  | .finished exitCode _ _ => exitCode = 1
  | .interrupted _ _ => True
  | .usage => False
  | .help => False

/-- The tree that a run leaves behind. Unless it is finished, it has changed nothing. -/
def Ending.treeAfter (before : FileTree) : Ending → FileTree
  | .finished _ _ after => after
  | .interrupted _ _ => before
  | .usage => before
  | .help => before

variable {limits : Limits} {tree : FileTree} {arguments : List String} {source target : String}
  {parameter : Option String} {bytes : ByteArray}

/-- Bytes are read as a text exactly if they are its encoding. -/
theorem fromUTF8?_eq_some_iff {text : String} :
    String.fromUTF8? bytes = some text ↔ bytes = text.toUTF8 := by
  unfold String.fromUTF8?
  by_cases hvalid : bytes.IsValidUTF8
  · rw [dif_pos hvalid, Option.some.injEq]
    constructor
    · rintro rfl
      rfl
    · rintro rfl
      rfl
  · rw [dif_neg hvalid]
    constructor
    · intro hnone
      cases hnone
    · rintro rfl
      exact (hvalid text.isValidUTF8).elim

/-- A file is loaded as its text is, with line feeds for all line breaks. -/
theorem loadFile_eq {text : String} (hbytes : bytes = text.toUTF8) (limits : Limits) :
    loadFile bytes limits = loadDescriptors (.text (withLineFeeds text)) limits := by
  unfold loadFile
  rw [fromUTF8?_eq_some_iff.mpr hbytes]
  show loadText _ _ = loadText _ _
  rw [withLineFeeds, String.toList_ofList]

namespace Request

variable {request : Request}

/-- The outcome of a request: the option string is read first, then the descriptors; then the module
is generated. -/
theorem outcome_generate (request : Request) (bytes : ByteArray) (limits : Limits) :
    (request.generate limits bytes).outcome =
      (Options.parse request.parameter {}).outcome.mapError Failure.options >>= fun options =>
        (loadFile bytes limits).outcome.mapError Failure.loading >>= fun enums =>
          (generateModule enums options (Path.ofString request.source).name
            limits).outcome.mapError Failure.writing := by
  unfold generate
  simp only [Reported.outcome_bind, Reported.outcome_report, Reported.outcome_reportAll,
    Reported.outcome_mapError]
  rfl

/-- A request that generates nothing fails, and leaves the tree as it is. -/
theorem run_of_error {failure : Failure}
    (hgenerate : (request.generate limits (request.bytes tree)).outcome = .error failure) :
    (request.run limits tree).IsFailure ∧ (request.run limits tree).treeAfter tree = tree := by
  unfold run
  simp only [hgenerate]
  split
  · exact ⟨trivial, rfl⟩
  · exact ⟨rfl, rfl⟩

/-- A request whose module cannot be stored fails, and leaves what storing it left. -/
theorem run_of_not_stored {code : String} {error : FileError}
    (hgenerate : (request.generate limits (request.bytes tree)).outcome = .ok code)
    (hstore : (tree.store (Path.ofString request.target) code.toUTF8).error = some error) :
    (request.run limits tree).IsFailure ∧ (request.run limits tree).treeAfter tree =
      (tree.store (Path.ofString request.target) code.toUTF8).tree := by
  unfold run
  simp only [hgenerate, hstore]
  exact ⟨rfl, rfl⟩

/-- A request whose module is stored succeeds. -/
theorem run_of_stored {code : String}
    (hgenerate : (request.generate limits (request.bytes tree)).outcome = .ok code)
    (hstore : (tree.store (Path.ofString request.target) code.toUTF8).error = none) :
    ∃ notices, request.run limits tree =
      .finished 0 notices (tree.store (Path.ofString request.target) code.toUTF8).tree := by
  unfold run
  simp only [hgenerate, hstore]
  exact ⟨_, rfl⟩

/-- A rejected option string is what is reported. -/
theorem run_of_options_error {error : OptionsError}
    (hoptions : (Options.parse request.parameter {}).outcome = .error error) :
    ∃ notices, request.run limits tree = .finished 1
      (notices ++ [⟨.error, "Failed to generate TypeScript: " ++ error.message⟩]) tree := by
  have hgenerate :
      (request.generate limits (request.bytes tree)).outcome = .error (.options error) := by
    rw [outcome_generate, hoptions]
    rfl
  have hshown (notices : List Notice) (text : String) :
      shownNotices request.verbose (notices ++ [⟨.error, text⟩]) =
        shownNotices request.verbose notices ++ [⟨.error, text⟩] := by
    unfold shownNotices
    rw [List.filter_append]
    cases request.verbose <;> rfl
  unfold run
  simp only [hgenerate]
  exact ⟨_, congrArg (fun notices => Ending.finished 1 notices tree) (hshown _ _)⟩

end Request

/-- A command line that can be carried out is a request. -/
theorem Usable.run_eq (husable : Usable tree arguments source target parameter bytes)
    (limits : Limits) :
    ∃ request : Request, run limits tree arguments = request.run limits tree ∧
      request.source = source ∧
      request.target = target ∧ request.parameter = parameter ∧ request.bytes tree = bytes := by
  obtain ⟨known, hread, hhelp, hpositionals, hparameter⟩ := husable.read
  let request : Request := ⟨source, target, known.parameter, known.verbose⟩
  have hrequest : Request.ofArguments? tree known = some request := by
    unfold Request.ofArguments?
    simp only [hpositionals, husable.source]
    split
    · rename_i hdirectory
      exact (husable.target hdirectory).elim
    · rfl
    · rename_i hfile _
      exact (hfile bytes rfl).elim
  refine ⟨request, ?_, rfl, rfl, hparameter, ?_⟩
  · unfold run
    simp only [hread, hhelp, hrequest, Bool.false_eq_true, if_false]
  · simp only [Request.bytes, request, husable.source]

/-- Unless something stands against it, a module is produced. -/
theorem exists_produces (hwritable : ¬ Unwritable limits tree target parameter bytes)
    (source : String) :
    ∃ code, Produces limits source parameter bytes code := by
  by_cases htext : ∃ text : String, bytes = text.toUTF8
  · obtain ⟨text, hbytes⟩ := htext
    cases hoptions : (Options.parse parameter {}).outcome with
    | error error => exact (hwritable (.options hoptions)).elim
    | ok options =>
      cases hload : (loadDescriptors (.text (withLineFeeds text)) limits).outcome with
      | error error => exact (hwritable (.descriptors hbytes hload)).elim
      | ok enums =>
        have henums := writable_of_loadDescriptors hload
          (allowsNumber_sentinelCode_of_parse hoptions) (by rintro _ ⟨⟩)
        exact ⟨_, .intro hbytes hoptions hload (outcome_generateModule_of_writable henums _)⟩
  · exact (hwritable (.notUtf8 (not_exists.mp htext))).elim

/-- What is produced is what a request generates. -/
theorem Produces.outcome_generate {request : Request} {code : String}
    (hcode : Produces limits request.source request.parameter bytes code) :
    (request.generate limits bytes).outcome = .ok code := by
  cases hcode with
  | intro hbytes hoptions hload hcode =>
    rw [Request.outcome_generate, hoptions, loadFile_eq hbytes, hload]
    show ((generateModule _ _ _ _).outcome.mapError _) = _
    rw [hcode]
    rfl

/-- Where the option string or the descriptors are at fault, a request generates nothing. -/
theorem Unwritable.outcome_generate {request : Request}
    (hunwritable : Unwritable limits tree target request.parameter bytes)
    (hopens : tree.Opens (Path.ofString target)) :
    ∃ failure, (request.generate limits bytes).outcome = .error failure := by
  have hloading {error : LoadError} (hload : (loadFile bytes limits).outcome = .error error) :
      ∃ failure, (request.generate limits bytes).outcome = .error failure := by
    rw [Request.outcome_generate, hload]
    cases (Options.parse request.parameter {}).outcome with
    | error error => exact ⟨_, rfl⟩
    | ok options => exact ⟨_, rfl⟩
  cases hunwritable with
  | options hoptions =>
    rw [Request.outcome_generate, hoptions]
    exact ⟨_, rfl⟩
  | notUtf8 htext =>
    have hnone : String.fromUTF8? bytes = none :=
      Option.eq_none_iff_forall_ne_some.mpr fun text => mt fromUTF8?_eq_some_iff.mp (htext text)
    have hload : (loadFile bytes limits).outcome = .error (.descriptor ⟨.notUtf8, none, none⟩) := by
      unfold loadFile
      rw [hnone]
      rfl
    exact hloading hload
  | descriptors hbytes hload => exact hloading (loadFile_eq hbytes limits ▸ hload)
  | target hclosed => exact (hclosed hopens).elim

/-- A request that cannot be carried to its end fails and leaves every file as it was. -/
theorem Request.run_of_unwritable {request : Request}
    (hunwritable : Unwritable limits tree request.target request.parameter (request.bytes tree)) :
    (request.run limits tree).IsFailure ∧
      tree.Extends (tree.Along (Path.ofString request.target))
        ((request.run limits tree).treeAfter tree) := by
  have hproper := Path.proper_ofString request.target
  cases hgenerate : (request.generate limits (request.bytes tree)).outcome with
  | error failure =>
    obtain ⟨hfailure, hafter⟩ := Request.run_of_error hgenerate
    rw [hafter]
    exact ⟨hfailure, .refl _ tree⟩
  | ok code =>
    have hclosed : ¬ tree.Opens (Path.ofString request.target) := by
      intro hopens
      obtain ⟨failure, hfailure⟩ := hunwritable.outcome_generate hopens
      rw [hfailure] at hgenerate
      cases hgenerate
    have hfailed : (tree.store (Path.ofString request.target) code.toUTF8).error ≠ none :=
      mt (FileTree.error_store_eq_none_iff hproper).mp hclosed
    obtain ⟨error, herror⟩ := Option.ne_none_iff_exists'.mp hfailed
    obtain ⟨hfailure, hafter⟩ := Request.run_of_not_stored hgenerate herror
    rw [hafter]
    exact ⟨hfailure, FileTree.extends_store hproper hfailed⟩

/-- Any other request succeeds and stores what is to be produced. -/
theorem Request.run_of_writable {request : Request}
    (hwritable : ¬ Unwritable limits tree request.target request.parameter (request.bytes tree)) :
    ∃ code notices after,
      Produces limits request.source request.parameter (request.bytes tree) code ∧
      request.run limits tree = .finished 0 notices after ∧
      tree.Stored after (Path.ofString request.target) code.toUTF8 := by
  have hproper := Path.proper_ofString request.target
  obtain ⟨code, hcode⟩ := exists_produces hwritable request.source
  have hopens : tree.Opens (Path.ofString request.target) := by
    by_contra hclosed
    exact hwritable (.target hclosed)
  have hstored : (tree.store (Path.ofString request.target) code.toUTF8).error = none :=
    (FileTree.error_store_eq_none_iff hproper).mpr hopens
  obtain ⟨notices, hfinished⟩ := Request.run_of_stored hcode.outcome_generate hstored
  exact ⟨code, notices, _, hcode, hfinished, hopens.stored hproper code.toUTF8⟩

/-- A run does all or nothing. If something stands against writing the module, the run fails and
leaves every file as it was. Otherwise it succeeds, the target has the bytes of the module that the
option string and the text of the source come to, and every other file is as it was. A rejected
option string is what is reported, whatever the source holds. Among what stands against the module
are a text that is nested too deep for the run and one with an integer that is too long. -/
theorem run_all_or_nothing (husable : Usable tree arguments source target parameter bytes)
    (limits : Limits) :
    (Unwritable limits tree target parameter bytes →
      (run limits tree arguments).IsFailure ∧
        tree.Extends (tree.Along (Path.ofString target))
          ((run limits tree arguments).treeAfter tree)) ∧
    (¬ Unwritable limits tree target parameter bytes →
      ∃ code notices after, Produces limits source parameter bytes code ∧
        run limits tree arguments = .finished 0 notices after ∧
        tree.Stored after (Path.ofString target) code.toUTF8) ∧
    (∀ error, (Options.parse parameter {}).outcome = .error error →
      ∃ notices, run limits tree arguments = .finished 1
        (notices ++ [⟨.error, "Failed to generate TypeScript: " ++ error.message⟩]) tree) := by
  obtain ⟨request, hrun, rfl, rfl, rfl, rfl⟩ := husable.run_eq limits
  rw [hrun]
  exact ⟨Request.run_of_unwritable, Request.run_of_writable,
    fun _ hoptions => Request.run_of_options_error hoptions⟩

/-- The text of a descriptor file with a carriage return before its line feed. -/
def lampText : String :=
  "\x7b\"enums\": [\x7b\"name\": \"Lamp\",\r\n\"values\": []\x7d]\x7d"

/-- A tree with a descriptor file in the current directory. -/
def lampTree : FileTree where
  entries := [(["work"], .directory), (["work", "lamp.json"], .file lampText.toUTF8)]
  current := ["work"]

/-- The directory that the target is to lie in is made, and the source is left as it is. -/
theorem run_all_or_nothing_lamp :
    Usable lampTree ["lamp.json", "out/lamp.ts"] "lamp.json" "out/lamp.ts" none lampText.toUTF8 ∧
    ∃ code notices after, Produces (.ordinary 900) "lamp.json" none lampText.toUTF8 code ∧
      run (.ordinary 900) lampTree ["lamp.json", "out/lamp.ts"] = .finished 0 notices after ∧
      lampTree.Stored after (Path.ofString "out/lamp.ts") code.toUTF8 := by
  have husable : Usable lampTree ["lamp.json", "out/lamp.ts"] "lamp.json" "out/lamp.ts" none
      lampText.toUTF8 :=
    ⟨⟨_, rfl, rfl, rfl, rfl⟩, rfl, by decide⟩
  have hwritable : ¬ Unwritable (.ordinary 900) lampTree "out/lamp.ts" none lampText.toUTF8 := by
    intro hunwritable
    cases hunwritable with
    | options hoptions => cases hoptions
    | notUtf8 htext => exact htext lampText rfl
    | descriptors hbytes hload =>
      obtain rfl := String.toByteArray_inj.mp hbytes
      cases hload
    | target hclosed =>
      have hstored : (lampTree.store (Path.ofString "out/lamp.ts") lampText.toUTF8).error = none :=
        rfl
      exact hclosed ((FileTree.error_store_eq_none_iff (Path.proper_ofString _)).mp hstored)
  exact ⟨husable, (run_all_or_nothing husable (.ordinary 900)).2.1 hwritable⟩

end EnumBindings
