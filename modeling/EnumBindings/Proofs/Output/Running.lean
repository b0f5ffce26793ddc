import EnumBindings.Proofs.Binding.Wire
import EnumBindings.Proofs.Output.Lines

/-!
# Running a module

The functions of an enumeration may be run from its code or from the text of a module. What stands
in a module besides the code opens neither a declaration nor a function, so it makes no difference.
Whatever an object on the wire is, decoding and encoding it in the module comes to the same result
in every representation of the enumeration.
-/

namespace EnumBindings.Binding

open Script

/-- Runs the conversion from JSON and then another one on what it gives, as both stand in lines of
code. -/
def recode (binding : Binding) (lines : List String) (ending : String) (object : Value) : Result :=
  let program : Program := { binding.program with lines := lines }
  (program.call (binding.functionName "FromJSON") object).bind
    (program.call (binding.functionName ending))

variable {binding : Binding}

/-- The lines of a module before the code of its only enumeration. -/
def frontLines (options : Options) (source : String) (enum : EnumDescriptor) : List String :=
  headingLines source ++ (helperLines options [enum]).flatMap ("" :: ·) ++ [""]

/-- Nothing is exported before the code. -/
theorem head?_of_mem_frontLines {options : Options} {source : String} {enum : EnumDescriptor} :
    ∀ line ∈ frontLines options source enum, (unindented line).head? ≠ some 'e' := by
  have hhelper : ∀ line ∈ "" :: Helper.globalObject.lines,
      (unindented line).head? ≠ some 'e' := by decide
  intro line hline
  rcases List.mem_append.mp hline with hline | hline
  · rcases List.mem_append.mp hline with hline | hline
    · simp only [headingLines, List.mem_cons, List.not_mem_nil, or_false] at hline
      rcases hline with rfl | rfl | rfl | rfl
      · decide
      · simp only [unindented, String.toList_append]
        simp
      · decide
      · decide
    · unfold helperLines at hline
      split at hline
      · exact hhelper line (by simpa using hline)
      · cases hline
  · rw [List.mem_singleton.mp hline]
    decide

/-- A module with one enumeration has its code behind the front lines. -/
theorem moduleLines_singleton (options : Options) (source : String) (enum : EnumDescriptor) :
    moduleLines options source [enum] =
      frontLines options source enum ++ (Binding.mk enum options).code := by
  simp [moduleLines, frontLines]

/-- The texts of the conversions do not depend on the form of the declaration. -/
theorem DifferOnlyIn.tail_contribution_eq {first second : Binding}
    (hdiffer : DifferOnlyIn declarationFlags first second) :
    (contribution first.options first.enum).tail =
      (contribution second.options second.enum).tail := by
  have henum := hdiffer.enum
  by_cases hname : first.enum.fullName = ""
  · rw [contribution_of_unnamed hname, contribution_of_unnamed (henum ▸ hname)]
  · rw [tail_contribution first hname, tail_contribution second (henum ▸ hname),
      hdiffer.conversions_eq]

namespace WellNamed

variable (hnamed : binding.WellNamed)

include hnamed

/-- Calling a function of a module is calling it in the code of the enumeration. -/
theorem call_module {conversion : Conversion} (hconversion : conversion ∈ binding.conversions)
    (source : String) (object : Value) :
    Program.call { binding.program with
        lines := moduleLines binding.options source [binding.enum] ++ [""] }
      conversion.name object = binding.program.call conversion.name object := by
  let module : Program := { binding.program with
    lines := moduleLines binding.options source [binding.enum] ++ [""] }
  have hlines : module.lines = frontLines binding.options source binding.enum ++
      (binding.code ++ [""]) := by
    show moduleLines _ _ _ ++ _ = _
    rw [moduleLines_singleton, List.append_assoc]
  -- What stands around the code opens nothing, so the same function and the same members are read.
  have hbranches : functionBranches conversion.name module.lines =
      functionBranches conversion.name binding.program.lines := by
    have hcode := functionBranches_conversion hconversion
    rw [hlines, functionBranches_append fun line hline =>
        opensFunction_of_unindented (head?_of_mem_frontLines line hline),
      functionBranches_code_append hconversion]
    exact hcode.symm
  have hmembers : module.members = binding.program.members := by
    rw [hnamed.members_program, ← hnamed.readMembers_code_append [""]]
    show readMembers binding.declaredName module.lines = _
    rw [hlines, readMembers_append fun line hline =>
      opensDeclaration_eq_false_of_head? (head?_of_mem_frontLines line hline)]
  have hvalue : module.value? = binding.program.value? := by
    funext code
    unfold Program.value?
    rw [hmembers]
    rfl
  show module.call conversion.name object = _
  unfold Program.call Program.run
  rw [hbranches, hvalue]

/-- Decoding and encoding in a module is decoding and encoding in the code. -/
theorem recode_module (hfrom : binding.options.emitsFromJson = true) {conversion : Conversion}
    (hconversion : conversion ∈ binding.conversions) {ending : String}
    (hending : conversion.name = binding.functionName ending) (source : String) (object : Value) :
    binding.recode (moduleLines binding.options source [binding.enum] ++ [""]) ending object =
      (binding.decodeValue object).bind
        (binding.program.call (binding.functionName ending)) := by
  have hdecode := hnamed.call_module (fromJson_mem_conversions hfrom) source object
  have hencode := funext fun value => hnamed.call_module hconversion source value
  rw [hending] at hencode
  exact congrArg₂ Result.bind hdecode hencode

/-- The enumeration can be written as a module, in which it is decoded and encoded as in its
code. -/
theorem exists_module {source : String} (hsource : Unbroken source)
    (hname : binding.enum.fullName ≠ "") (hfullName : Unbroken binding.enum.fullName) :
    ∃ text, (generateModule [binding.enum] binding.options source).outcome = .ok text ∧
      (binding.options.emitsFromJson = true → ∀ object : Value,
        (binding.options.emitsToJson = true → binding.recode (textLines text) "ToJSON" object =
          (binding.decodeValue object).bind binding.encode) ∧
        (binding.options.emitsToNumber = true → binding.recode (textLines text) "ToNumber" object =
          (binding.decodeValue object).bind binding.encodeNumber)) := by
  have hlegible : ∀ enum ∈ [binding.enum], (Binding.mk enum binding.options).Legible := by
    intro enum henum
    rw [List.mem_singleton.mp henum]
    exact hnamed.legible hfullName
  refine ⟨_, outcome_generateModule_lines (by simpa using hname), ?_⟩
  intro hfrom object
  rw [textLines_module hsource hlegible]
  constructor
  · intro hto
    exact hnamed.recode_module hfrom (toJson_mem_conversions hto) rfl source object
  · intro hto
    exact hnamed.recode_module hfrom (toNumber_mem_conversions hto) rfl source object

end WellNamed

/-- Bindings of one enumeration that differ in flags about the representation only decode and encode
every object alike, in their code as in a module with it. If only the form of the declaration
differs, the texts of the conversions are the same, and so are the declared members with their
values. -/
theorem recode_eq_of_differOnlyIn {first second : Binding}
    (hdiffer : DifferOnlyIn representationFlags first second)
    (hfirst : first.WellNamed) (hsecond : second.WellNamed) :
    (first.options.emitsFromJson = true → ∀ object : Value,
      (first.options.emitsToJson = true →
        (first.decodeValue object).bind first.encode =
          (second.decodeValue object).bind second.encode) ∧
      (first.options.emitsToNumber = true →
        (first.decodeValue object).bind first.encodeNumber =
          (second.decodeValue object).bind second.encodeNumber)) ∧
    (∀ source : String, Unbroken source → first.enum.fullName ≠ "" →
      Unbroken first.enum.fullName → ∃ text other,
        (generateModule [first.enum] first.options source).outcome = .ok text ∧
        (generateModule [second.enum] second.options source).outcome = .ok other ∧
        (first.options.emitsFromJson = true → ∀ object : Value,
          (first.options.emitsToJson = true →
            first.recode (textLines text) "ToJSON" object =
              second.recode (textLines other) "ToJSON" object) ∧
          (first.options.emitsToNumber = true →
            first.recode (textLines text) "ToNumber" object =
              second.recode (textLines other) "ToNumber" object))) ∧
    (first.options.AgreeExcept declarationFlags second.options →
      (contribution first.options first.enum).tail =
        (contribution second.options second.enum).tail ∧
      ((first.declaration.members.map fun declared => (declared.name, declared.value)) =
        second.declaration.members.map fun declared => (declared.name, declared.value)) ∧
      first.program.members = second.program.members) := by
  obtain ⟨hfromEq, htoEq, htoNumberEq⟩ := hdiffer.emits
  have hjson (hfrom : first.options.emitsFromJson = true)
      (hto : first.options.emitsToJson = true) (object : Value) :
      (first.decodeValue object).bind first.encode =
        (second.decodeValue object).bind second.encode := by
    have hencode := funext (hdiffer.encode_eq hfirst hsecond hto)
    rw [hdiffer.decodeValue_eq hfirst hsecond hfrom, hencode]
  have hnumber (hfrom : first.options.emitsFromJson = true)
      (hto : first.options.emitsToNumber = true) (object : Value) :
      (first.decodeValue object).bind first.encodeNumber =
        (second.decodeValue object).bind second.encodeNumber := by
    have hencode := funext (hdiffer.encodeNumber_eq hfirst hsecond hto)
    rw [hdiffer.decodeValue_eq hfirst hsecond hfrom, hencode]
  refine ⟨?_, ?_, ?_⟩
  · intro hfrom object
    exact ⟨fun hto => hjson hfrom hto object, fun hto => hnumber hfrom hto object⟩
  · intro source hsource hname hfullName
    obtain ⟨text, houtcome, hrun⟩ := hfirst.exists_module hsource hname hfullName
    obtain ⟨other, hother, hotherRun⟩ :=
      hsecond.exists_module hsource (hdiffer.enum ▸ hname) (hdiffer.enum ▸ hfullName)
    refine ⟨text, other, houtcome, hother, ?_⟩
    intro hfrom object
    constructor
    · intro hto
      rw [(hrun hfrom object).1 hto, (hotherRun (hfromEq ▸ hfrom) object).1 (htoEq ▸ hto),
        hjson hfrom hto]
    · intro hto
      rw [(hrun hfrom object).2 hto, (hotherRun (hfromEq ▸ hfrom) object).2 (htoNumberEq ▸ hto),
        hnumber hfrom hto]
  · intro hagree
    have hform : DifferOnlyIn declarationFlags first second := ⟨hdiffer.enum, hagree⟩
    exact ⟨hform.tail_contribution_eq, hform.map_name_value_eq,
      hform.members_program_eq hfirst hsecond⟩

/-- The traffic light as a constant object, without comments. Its name is
split and the names of its members are shortened unless full names are asked for. -/
def restyledLight (fullNames : Bool) : Binding where
  enum := trafficLight.enum
  options :=
    { trafficLight.options with
      nestedEnumsAsNamespaces := !fullNames
      enumsAsLiterals := true
      constEnums := true
      removeEnumPrefix := !fullNames
      comments := false }

theorem restyledLight_wellNamed (fullNames : Bool) : (restyledLight fullNames).WellNamed := by
  cases fullNames <;>
    exact ⟨by decide +kernel, by decide +kernel, by decide +kernel, by decide +kernel,
      by decide +kernel⟩

/-- An alias and an unknown number are treated alike whether names are shortened or not. -/
theorem recode_eq_of_differOnlyIn_trafficLight :
    (trafficLight.decodeValue (.text "RED")).bind trafficLight.encode =
        ((restyledLight true).decodeValue (.text "RED")).bind (restyledLight true).encode ∧
    (∃ text other,
      (generateModule [trafficLight.enum] trafficLight.options "road").outcome = .ok text ∧
      (generateModule [trafficLight.enum] (restyledLight true).options "road").outcome =
        .ok other ∧
      trafficLight.recode (textLines text) "ToNumber" (.number 5) =
        (restyledLight true).recode (textLines other) "ToNumber" (.number 5)) ∧
    (contribution trafficLight.options trafficLight.enum).tail =
      (contribution (restyledLight false).options trafficLight.enum).tail := by
  have hrenamed : DifferOnlyIn representationFlags trafficLight (restyledLight true) :=
    ⟨rfl, by decide⟩
  have hreformed : DifferOnlyIn representationFlags trafficLight (restyledLight false) :=
    ⟨rfl, by decide⟩
  obtain ⟨hcode, hmodule, _⟩ :=
    recode_eq_of_differOnlyIn hrenamed trafficLight_wellNamed (restyledLight_wellNamed true)
  obtain ⟨_, _, hform⟩ :=
    recode_eq_of_differOnlyIn hreformed trafficLight_wellNamed (restyledLight_wellNamed false)
  obtain ⟨text, other, htext, hother, hrun⟩ := hmodule "road" (by decide) (by decide) (by decide)
  exact ⟨(hcode rfl (.text "RED")).1 rfl,
    ⟨text, other, htext, hother, (hrun rfl (.number 5)).2 rfl⟩, (hform (by decide)).1⟩

end EnumBindings.Binding
