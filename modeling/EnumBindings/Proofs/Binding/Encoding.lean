import EnumBindings.Proofs.Binding.Functions

/-!
# Encoding to JSON and to numbers

Both encoders look for the first value of the schema that holds an object. What no value holds
is treated like the value of the sentinel member, which is also where the conversion from JSON
falls back to. Without a sentinel the conversion to JSON refuses such an object and the
conversion to numbers gives the code of the sentinel all the same.
-/

namespace EnumBindings.Binding

open Script

variable {binding : Binding}

/-- The sentinel member is the first declared member with its code. -/
theorem find?_code_sentinelMember (hsentinel : binding.options.sentinel = true) :
    (binding.members.find? (·.code = binding.options.sentinelCode)).or binding.fallback =
      some binding.sentinelMember := by
  rw [fallback_eq_some hsentinel, sentinelMember]
  cases binding.members.find? (·.code = binding.options.sentinelCode) <;> rfl

namespace WellNamed

variable (hnamed : binding.WellNamed)

include hnamed

/-- Where members hold their wire names, no two members hold the same. -/
theorem find?_held_of_stringEnums (hstring : binding.options.stringEnums = true) {member : Member}
    (hmember : member ∈ binding.allMembers) :
    binding.allMembers.find? (binding.held · == binding.held member) = some member := by
  have hheld (other : Member) : (binding.held other == binding.held member) =
      (other.wireName == member.wireName) := by
    simp [held, hstring]
  simp only [hheld]
  exact find?_of_nodup_map hnamed.nodup_wireNames hmember

/-- The first member that holds what the sentinel member holds is the sentinel member itself. -/
theorem find?_held_sentinelMember (hsentinel : binding.options.sentinel = true) :
    (binding.members.find? (binding.held · == binding.held binding.sentinelMember)).or
      binding.fallback = some binding.sentinelMember := by
  have hmember := sentinelMember_mem hsentinel
  cases hstring : binding.options.stringEnums with
  | true =>
    rw [find?_or_fallback (binding.held · == binding.held binding.sentinelMember) hmember
      (beq_self_eq_true _)]
    exact hnamed.find?_held_of_stringEnums hstring hmember
  | false =>
    have hheld (member : Member) : (binding.held member == binding.held binding.sentinelMember) =
        decide (member.code = binding.options.sentinelCode) := by
      simp [held, hstring, code_sentinelMember, Bool.beq_eq_decide_eq]
    simp only [hheld]
    exact find?_code_sentinelMember hsentinel

/-- The values that are read from the code are searched like those that the members hold. -/
theorem find?_memberValue? (object : Value) :
    binding.members.find? (binding.program.memberValue? ·.name == some object) =
      binding.members.find? (binding.held · == object) := by
  refine List.find?_congr ?_
  intro member hmember
  rw [hnamed.memberValue?_name (List.mem_append_left _ hmember)]
  simp

/-- What no value of the schema holds is not found among the values. -/
theorem find?_held_eq_none {object : Value}
    (hunknown : ∀ member ∈ binding.members,
      binding.program.memberValue? member.name ≠ some object) :
    binding.members.find? (binding.held · == object) = none := by
  rw [← hnamed.find?_memberValue?, List.find?_eq_none]
  intro member hmember
  simpa using hunknown member hmember

/-- What values of the schema hold is encoded like the first of them. -/
theorem encode_of_first {object : Value} {member : Member}
    (hfirst : binding.members.find? (binding.program.memberValue? ·.name == some object) =
      some member) :
    (binding.options.emitsToJson = true → binding.encode object = .value (binding.json member)) ∧
      (binding.options.emitsToNumber = true →
        binding.encodeNumber object = .value (.number member.code)) := by
  rw [hnamed.find?_memberValue?] at hfirst
  constructor
  · intro hemits
    rw [hnamed.encode_eq hemits, hfirst, Option.some_or, resultOf]
  · intro hemits
    rw [hnamed.encodeNumber_eq hemits, hfirst, Option.map_some, Option.getD_some]

/-- What no value of the schema holds is encoded like the fallback, or refused without one. -/
theorem encode_of_unknown (hemits : binding.options.emitsToJson = true) {object : Value}
    (hunknown : ∀ member ∈ binding.members,
      binding.program.memberValue? member.name ≠ some object) :
    binding.encode object = binding.resultOf binding.fallback := by
  rw [hnamed.encode_eq hemits, hnamed.find?_held_eq_none hunknown, Option.none_or]

/-- What no value of the schema holds is encoded as the code of the sentinel. -/
theorem encodeNumber_of_unknown (hemits : binding.options.emitsToNumber = true) {object : Value}
    (hunknown : ∀ member ∈ binding.members,
      binding.program.memberValue? member.name ≠ some object) :
    binding.encodeNumber object = .value (.number binding.options.sentinelCode) := by
  rw [hnamed.encodeNumber_eq hemits, hnamed.find?_held_eq_none hunknown, Option.map_none,
    Option.getD_none]

/-- The value of the sentinel member is encoded like the sentinel member. -/
theorem encode_sentinelMember (hemits : binding.options.emitsToJson = true)
    (hsentinel : binding.options.sentinel = true) :
    binding.encode (binding.held binding.sentinelMember) =
      .value (binding.json binding.sentinelMember) := by
  rw [hnamed.encode_eq hemits, hnamed.find?_held_sentinelMember hsentinel, resultOf]

/-- The sentinel member has the code of the sentinel also as it is encoded. -/
theorem encodeNumber_sentinelMember (hemits : binding.options.emitsToNumber = true)
    (hsentinel : binding.options.sentinel = true) :
    binding.encodeNumber (binding.held binding.sentinelMember) =
      .value (.number binding.options.sentinelCode) := by
  have hfind := hnamed.find?_held_sentinelMember hsentinel
  rw [hnamed.encodeNumber_eq hemits]
  cases hfirst : binding.members.find?
      (binding.held · == binding.held binding.sentinelMember) with
  | none => rfl
  | some member =>
    rw [hfirst, Option.some_or] at hfind
    rw [Option.some.inj hfind, Option.map_some, Option.getD_some, code_sentinelMember]

/-- With a sentinel the conversion to JSON refuses nothing. -/
theorem exists_encode_eq (hemits : binding.options.emitsToJson = true)
    (hsentinel : binding.options.sentinel = true) (object : Value) :
    ∃ json, binding.encode object = .value json := by
  rw [hnamed.encode_eq hemits, fallback_eq_some hsentinel]
  cases binding.members.find? (binding.held · == object) with
  | none => exact ⟨_, rfl⟩
  | some member => exact ⟨_, rfl⟩

/-- With a sentinel the conversion from JSON refuses nothing. What stands for no value of the
schema leads to the sentinel member. -/
theorem decode_of_sentinel (hemits : binding.options.emitsFromJson = true)
    (hsentinel : binding.options.sentinel = true) (object : Value) :
    binding.decode object ≠ .throws ∧
      ((∀ member ∈ binding.members, member.answersTo object = false) →
        binding.decode object =
          .gives (binding.program.memberCode binding.sentinelMember.name)) := by
  rw [decode_eq hemits hnamed.wireNames, fallback_eq_some hsentinel]
  constructor
  · cases binding.members.find? (·.answersTo object) <;> exact Outcome.noConfusion
  · intro hunknown
    have hfind : binding.members.find? (·.answersTo object) = none := by
      rw [List.find?_eq_none]
      intro member hmember
      simpa using hunknown member hmember
    rw [hfind, Option.none_or, outcomeOf]

end WellNamed

/-- What values of the schema hold is encoded like the first of them. Everything else is encoded
like the sentinel member, to which the conversion from JSON also falls back, and then nothing is
refused. Without a sentinel it is refused in JSON and encoded as the code of the sentinel among
numbers. -/
theorem encode_total (hnamed : binding.WellNamed) :
    (∀ object member,
      binding.members.find? (binding.program.memberValue? ·.name == some object) = some member →
      (binding.options.emitsToJson = true → binding.encode object =
        .value (if binding.options.numericJson then .number member.code
          else .text member.wireName)) ∧
      (binding.options.emitsToNumber = true →
        binding.encodeNumber object = .value (.number member.code))) ∧
    (binding.options.sentinel = true →
      binding.sentinelMember ∈ binding.allMembers ∧
      (∃ sentinel, binding.program.memberValue? binding.sentinelMember.name = some sentinel ∧
        ∀ object, (∀ member ∈ binding.members,
            binding.program.memberValue? member.name ≠ some object) →
          (binding.options.emitsToJson = true →
            binding.encode object = binding.encode sentinel ∧
            binding.encode object = .value (if binding.options.numericJson
              then .number binding.options.sentinelCode
              else .text binding.sentinelMember.wireName)) ∧
          (binding.options.emitsToNumber = true →
            binding.encodeNumber object = binding.encodeNumber sentinel ∧
            binding.encodeNumber object = .value (.number binding.options.sentinelCode))) ∧
      ∀ object,
        (binding.options.emitsFromJson = true →
          binding.decode object ≠ .throws ∧
          ((∀ member ∈ binding.members, member.answersTo object = false) →
            binding.decode object =
              .gives (binding.program.memberCode binding.sentinelMember.name))) ∧
        (binding.options.emitsToJson = true → ∃ json, binding.encode object = .value json) ∧
        (binding.options.emitsToNumber = true →
          ∃ number, binding.encodeNumber object = .value number)) ∧
    (binding.options.sentinel = false → ∀ object, (∀ member ∈ binding.members,
        binding.program.memberValue? member.name ≠ some object) →
      (binding.options.emitsToJson = true → binding.encode object = .thrown) ∧
      (binding.options.emitsToNumber = true →
        binding.encodeNumber object = .value (.number binding.options.sentinelCode))) := by
  refine ⟨?_, ?_, ?_⟩
  · intro object member hfirst
    exact hnamed.encode_of_first hfirst
  · intro hsentinel
    have hmember := sentinelMember_mem hsentinel
    refine ⟨hmember, ⟨_, hnamed.memberValue?_name hmember, ?_⟩, ?_⟩
    · intro object hunknown
      constructor
      · intro hemits
        have hencode : binding.encode object = .value (binding.json binding.sentinelMember) := by
          rw [hnamed.encode_of_unknown hemits hunknown, fallback_eq_some hsentinel, resultOf]
        rw [hencode, hnamed.encode_sentinelMember hemits hsentinel, json, code_sentinelMember]
        exact ⟨rfl, rfl⟩
      · intro hemits
        rw [hnamed.encodeNumber_of_unknown hemits hunknown,
          hnamed.encodeNumber_sentinelMember hemits hsentinel]
        exact ⟨rfl, rfl⟩
    · intro object
      exact ⟨fun hemits => hnamed.decode_of_sentinel hemits hsentinel object,
        fun hemits => hnamed.exists_encode_eq hemits hsentinel object,
        fun hemits => ⟨_, hnamed.encodeNumber_eq hemits object⟩⟩
  · intro hsentinel object hunknown
    constructor
    · intro hemits
      rw [hnamed.encode_of_unknown hemits hunknown, fallback_eq_none hsentinel, resultOf]
    · intro hemits
      exact hnamed.encodeNumber_of_unknown hemits hunknown

/-- An alias is encoded as its code, and what no member holds as the code of the sentinel. -/
theorem encode_total_trafficLight :
    trafficLight.encode (.text "RED") = .value (.number 1) ∧
      trafficLight.encodeNumber (.text "BLUE") = .value (.number (-1)) := by
  have hfirst : trafficLight.members.find?
      (trafficLight.program.memberValue? ·.name == some (.text "RED")) =
        some ⟨"RED", { name := "RED", number := 1 }⟩ := by
    rw [trafficLight_wellNamed.find?_memberValue?]
    decide +kernel
  have hblue : ∀ member ∈ trafficLight.members,
      trafficLight.program.memberValue? member.name ≠ some (.text "BLUE") := by
    intro member hmember
    rw [trafficLight_wellNamed.memberValue?_name (List.mem_append_left _ hmember)]
    revert member
    decide +kernel
  obtain ⟨hheld, hsentinel, _⟩ := encode_total trafficLight_wellNamed
  obtain ⟨_, ⟨_, _, hunknown⟩, _⟩ := hsentinel rfl
  obtain ⟨hred, _⟩ := hheld _ _ hfirst
  obtain ⟨_, hnumber⟩ := hunknown _ hblue
  exact ⟨hred rfl, (hnumber rfl).2⟩

end EnumBindings.Binding
