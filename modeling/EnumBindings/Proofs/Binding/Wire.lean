import EnumBindings.Proofs.Binding.RoundTrip
import EnumBindings.Proofs.Options.Agreement

/-!
# What does not depend on the representation

An enumeration may be declared in several ways, and the names of its members may be shortened. What
its functions compute depends on the values of the schema only. For each function there is one
equation in which neither names of members nor flags about the representation occur, and the code of
the functions is the same where only the form of the declaration differs.
-/

namespace EnumBindings

open Script

/-- The flags about the form of a declaration. They leave all names as they are. -/
def declarationFlags : List Flag :=
  [.enumsAsLiterals, .constEnums, .comments]

/-- The flags about the representation of an enumeration: its form and the names in it. -/
def representationFlags : List Flag :=
  [.nestedEnumsAsNamespaces, .removeEnumPrefix] ++ declarationFlags

namespace EnumValue

/-- What the member for a value holds when the code runs. -/
def held (options : Options) (value : EnumValue) : Value :=
  if options.stringEnums then .text value.name else .number value.number

/-- What a value is in JSON. -/
def json (options : Options) (value : EnumValue) : Value :=
  if options.numericJson then .number value.number else .text value.name

/-- Whether an object stands for a value in JSON. -/
def answersTo (value : EnumValue) (object : Value) : Bool :=
  object = .number value.number || object = .text value.name

end EnumValue

/-- The value of the sentinel: the first of the schema with its code, or else one of its own. -/
def sentinelValue (options : Options) (enum : EnumDescriptor) : EnumValue :=
  (enum.values.find? (·.number = options.sentinelCode)).getD
    { name := options.sentinelName, number := options.sentinelCode }

/-- The first value of the schema that is wanted, or else that of the sentinel if there is one. -/
def sought (options : Options) (enum : EnumDescriptor) (wanted : EnumValue → Bool) :
    Option EnumValue :=
  (enum.values.find? wanted).or
    (if options.sentinel then some (sentinelValue options enum) else none)

/-- What a function comes to that gives something for a value and throws if there is none. -/
def resultFor (given : EnumValue → Value) : Option EnumValue → Result
  | some value => .value (given value)
  | none => .thrown

namespace Binding

/-- Members are found by their values. -/
theorem map_value_find? (binding : Binding) (wanted : EnumValue → Bool) :
    (binding.members.find? fun member => wanted member.value).map (·.value) =
      binding.enum.values.find? wanted := by
  rw [members, EnumBindings.members, List.find?_map, Option.map_map]
  exact Option.map_id_apply

/-- The sentinel member has the value of the sentinel. -/
theorem value_sentinelMember (binding : Binding) :
    binding.sentinelMember.value = sentinelValue binding.options binding.enum := by
  have hfind : (binding.members.find? (·.code = binding.options.sentinelCode)).map (·.value) =
      binding.enum.values.find? (·.number = binding.options.sentinelCode) :=
    map_value_find? binding (·.number = binding.options.sentinelCode)
  rw [sentinelValue, ← hfind, sentinelMember]
  cases binding.members.find? (·.code = binding.options.sentinelCode) <;> rfl

/-- The member that an object leads to has the value that is sought. -/
theorem map_value_sought (binding : Binding) (wanted : EnumValue → Bool) :
    ((binding.members.find? fun member => wanted member.value).or binding.fallback).map (·.value) =
      sought binding.options binding.enum wanted := by
  have hfallback : binding.fallback.map (·.value) =
      if binding.options.sentinel then some (sentinelValue binding.options binding.enum)
      else none := by
    unfold fallback
    split
    · rw [Option.map_some, value_sentinelMember]
    · rfl
  rw [Option.map_or, map_value_find?, hfallback, sought]

namespace WellNamed

variable {binding : Binding} (hnamed : binding.WellNamed)

include hnamed

/-- From JSON, an object becomes what is held for the value that it stands for. -/
theorem decodeValue_eq (hemits : binding.options.emitsFromJson = true) (object : Value) :
    binding.decodeValue object = resultFor (EnumValue.held binding.options)
      (sought binding.options binding.enum (·.answersTo object)) := by
  have hdecode := decode_eq hemits hnamed.wireNames object
  rw [← map_value_sought]
  cases hfound : (binding.members.find? (·.answersTo object)).or binding.fallback with
  | none =>
    rw [hfound, outcomeOf] at hdecode
    unfold decode at hdecode
    have hnone : (binding.members.find? fun member =>
        member.value.answersTo object).or binding.fallback = none := hfound
    rw [decodeValue, Program.call, hdecode, hnone]
    rfl
  | some member =>
    rw [hfound, outcomeOf] at hdecode
    have hsome : (binding.members.find? fun member =>
        member.value.answersTo object).or binding.fallback = some member := hfound
    rw [hnamed.decodeValue_of_decode (mem_of_find?_or_fallback hfound) hdecode, hsome]
    rfl

/-- To JSON, an object becomes what the first value that it is held for is in JSON. -/
theorem encode_eq_resultFor (hemits : binding.options.emitsToJson = true) (object : Value) :
    binding.encode object = resultFor (EnumValue.json binding.options)
      (sought binding.options binding.enum (·.held binding.options == object)) := by
  have hencode : binding.encode object = binding.resultOf ((binding.members.find? fun member =>
      member.value.held binding.options == object).or binding.fallback) :=
    hnamed.encode_eq hemits object
  rw [hencode, ← map_value_sought]
  cases (binding.members.find? fun member =>
    member.value.held binding.options == object).or binding.fallback <;> rfl

/-- To numbers, an object becomes the code of the first value that it is held for. -/
theorem encodeNumber_eq_find? (hemits : binding.options.emitsToNumber = true) (object : Value) :
    binding.encodeNumber object =
      .value (.number (((binding.enum.values.find? (·.held binding.options == object)).map
        (·.number)).getD binding.options.sentinelCode)) := by
  have hencode : binding.encodeNumber object =
      .value (.number (((binding.members.find? fun member =>
        member.value.held binding.options == object).map Member.code).getD
          binding.options.sentinelCode)) :=
    hnamed.encodeNumber_eq hemits object
  rw [hencode, ← map_value_find?, Option.map_map]
  rfl

end WellNamed

/-- The declaration gives the names of all members the values that they are to hold. -/
theorem map_name_value_declaredMembers (binding : Binding) :
    (binding.declaredMembers.map fun declared => (declared.name, declared.value)) =
      binding.allMembers.map fun member =>
        (member.name, heldValue binding.options member.wireName member.code) := by
  unfold declaredMembers allMembers
  rw [List.map_append, List.map_append, List.map_map]
  split <;> rfl

/-- Two bindings of one enumeration whose options agree except in some flags. -/
structure DifferOnlyIn (flags : List Flag) (first second : Binding) : Prop where
  enum : first.enum = second.enum
  options : first.options.AgreeExcept flags second.options

namespace DifferOnlyIn

variable {flags : List Flag} {first second : Binding}

/-- What does not depend on some flags is the same where bindings differ in these only. -/
theorem congr (hdiffer : DifferOnlyIn flags first second) {α : Sort*} (f : Binding → α)
    (hreset : ∀ binding : Binding, f ⟨binding.enum, binding.options.reset flags⟩ = f binding) :
    f first = f second := by
  rw [← hreset first, Options.agreeExcept_iff_reset_eq.mp hdiffer.options, hdiffer.enum,
    hreset second]

/-- Which conversions are asked for does not depend on the representation. -/
theorem emits (hdiffer : DifferOnlyIn representationFlags first second) :
    first.options.emitsFromJson = second.options.emitsFromJson ∧
      first.options.emitsToJson = second.options.emitsToJson ∧
      first.options.emitsToNumber = second.options.emitsToNumber :=
  ⟨hdiffer.congr (·.options.emitsFromJson) fun _ => rfl,
    hdiffer.congr (·.options.emitsToJson) fun _ => rfl,
    hdiffer.congr (·.options.emitsToNumber) fun _ => rfl⟩

/-- The conversion from JSON does not depend on the representation. -/
theorem decodeValue_eq (hdiffer : DifferOnlyIn representationFlags first second)
    (hfirst : first.WellNamed) (hsecond : second.WellNamed)
    (hemits : first.options.emitsFromJson = true) (object : Value) :
    first.decodeValue object = second.decodeValue object := by
  have hother : second.options.emitsFromJson = true := hdiffer.emits.1 ▸ hemits
  rw [hfirst.decodeValue_eq hemits, hsecond.decodeValue_eq hother]
  exact hdiffer.congr (fun binding => resultFor (EnumValue.held binding.options)
    (sought binding.options binding.enum (·.answersTo object))) fun _ => rfl

/-- The conversion to JSON does not depend on the representation. -/
theorem encode_eq (hdiffer : DifferOnlyIn representationFlags first second)
    (hfirst : first.WellNamed) (hsecond : second.WellNamed)
    (hemits : first.options.emitsToJson = true) (object : Value) :
    first.encode object = second.encode object := by
  have hother : second.options.emitsToJson = true := hdiffer.emits.2.1 ▸ hemits
  rw [hfirst.encode_eq_resultFor hemits, hsecond.encode_eq_resultFor hother]
  exact hdiffer.congr (fun binding => resultFor (EnumValue.json binding.options)
    (sought binding.options binding.enum (·.held binding.options == object))) fun _ => rfl

/-- The conversion to numbers does not depend on the representation. -/
theorem encodeNumber_eq (hdiffer : DifferOnlyIn representationFlags first second)
    (hfirst : first.WellNamed) (hsecond : second.WellNamed)
    (hemits : first.options.emitsToNumber = true) (object : Value) :
    first.encodeNumber object = second.encodeNumber object := by
  have hother : second.options.emitsToNumber = true := hdiffer.emits.2.2 ▸ hemits
  rw [hfirst.encodeNumber_eq_find? hemits, hsecond.encodeNumber_eq_find? hother]
  exact hdiffer.congr (fun binding => Result.value (.number
    (((binding.enum.values.find? (·.held binding.options == object)).map (·.number)).getD
      binding.options.sentinelCode))) fun _ => rfl

/-- The code of the conversions does not depend on the form of the declaration. -/
theorem conversions_eq (hdiffer : DifferOnlyIn declarationFlags first second) :
    first.conversions = second.conversions :=
  hdiffer.congr (·.conversions) fun _ => rfl

/-- Names and values of the members do not depend on the form of the declaration. -/
theorem map_name_value_eq (hdiffer : DifferOnlyIn declarationFlags first second) :
    (first.declaration.members.map fun declared => (declared.name, declared.value)) =
      second.declaration.members.map fun declared => (declared.name, declared.value) := by
  have hmembers := hdiffer.congr (fun binding => binding.allMembers.map fun member =>
    (member.name, heldValue binding.options member.wireName member.code)) fun _ => rfl
  show (first.declaredMembers.map _) = second.declaredMembers.map _
  rw [map_name_value_declaredMembers, map_name_value_declaredMembers]
  exact hmembers

/-- The members that are read from the code do not depend on the form of the declaration. -/
theorem members_program_eq (hdiffer : DifferOnlyIn declarationFlags first second)
    (hfirst : first.WellNamed) (hsecond : second.WellNamed) :
    first.program.members = second.program.members := by
  rw [hfirst.members_program, hsecond.members_program]
  exact hdiffer.congr (fun binding => binding.allMembers.map fun member =>
    (member.name, binding.held member)) fun _ => rfl

end DifferOnlyIn

end Binding

end EnumBindings
