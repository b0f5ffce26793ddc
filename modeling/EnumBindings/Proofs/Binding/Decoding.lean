import EnumBindings.Proofs.Binding.Functions

/-!
# Decoding from JSON

The conversion from JSON is described by places in the declaration, which has the values of the
schema in their order and behind them the sentinel if it is added. A number leads to the first
value with that code and a wire name to its own value. Everything else leads to the sentinel, or
is refused without one. Nothing is assumed about the names of members, which may collide.
-/

namespace EnumBindings.Binding

open Script

variable {binding : Binding}

/-- The conversion from JSON gives for an object the name that is declared in a place. -/
def DecodesTo (binding : Binding) (object : Value) (place : ℕ) : Prop :=
  ∃ declared, binding.declaration.members[place]? = some declared ∧
    binding.decode object = .gives (binding.reference ++ "." ++ declared.name)

/-- A value of the schema is declared in its own place. -/
theorem getElem?_declaration_members {member : Member} {place : ℕ}
    (hplace : binding.members[place]? = some member) :
    binding.declaration.members[place]? = some (declareMember binding.options member) := by
  have hlength : place < (binding.members.map (declareMember binding.options)).length := by
    rw [List.length_map]
    exact (List.getElem?_eq_some_iff.mp hplace).1
  show binding.declaredMembers[place]? = _
  rw [declaredMembers, List.getElem?_append_left hlength, List.getElem?_map, hplace,
    Option.map_some]

/-- An object leads to the first place where a search finds something, if it leads to what the
search finds. -/
theorem decodesTo_of_findIdx? {standsFor : Member → Bool} {object : Value} {place : ℕ}
    (hplace : binding.members.findIdx? standsFor = some place)
    (hdecode : ∀ member, binding.members.find? standsFor = some member →
      binding.decode object = .gives (binding.program.memberCode member.name)) :
    binding.DecodesTo object place := by
  obtain ⟨hlength, hstands, hbefore⟩ := List.findIdx?_eq_some_iff_getElem.mp hplace
  have hfind : binding.members.find? standsFor = some binding.members[place] := by
    rw [List.find?_eq_some_iff_getElem]
    refine ⟨hstands, place, hlength, rfl, ?_⟩
    intro earlier hearlier
    simpa using hbefore earlier hearlier
  have hmember : binding.members[place]? = some binding.members[place] :=
    List.getElem?_eq_getElem hlength
  exact ⟨_, getElem?_declaration_members hmember, hdecode _ hfind⟩

/-- A sentinel that is added is declared behind all values. -/
theorem declares_addedSentinel (hsentinel : binding.options.sentinel = true)
    (hfree : ∀ value ∈ binding.enum.values, value.number ≠ binding.options.sentinelCode) :
    binding.sentinelMember = addedSentinel binding.options ∧
      binding.declaration.members[binding.enum.values.length]? =
        some (declareSentinel binding.options) := by
  have hfind : binding.members.find? (·.code = binding.options.sentinelCode) = none := by
    rw [List.find?_eq_none]
    intro member hmember
    obtain ⟨value, hvalue, rfl⟩ := List.mem_map.mp hmember
    intro hcode
    exact hfree value hvalue (of_decide_eq_true hcode)
  have hadded := (isAdded_eq_true_iff binding).mpr ⟨hsentinel, hfind⟩
  have hlength : (binding.members.map (declareMember binding.options)).length =
      binding.enum.values.length := by
    simp [members, EnumBindings.members]
  refine ⟨by rw [sentinelMember, hfind, Option.getD_none], ?_⟩
  show binding.declaredMembers[binding.enum.values.length]? = _
  rw [declaredMembers, if_pos hadded, ← hlength, List.getElem?_concat_length]

/-- Values are searched like the members that come from them. -/
theorem findIdx?_members (binding : Binding) (standsFor : EnumValue → Bool) :
    binding.members.findIdx? (standsFor ·.value) = binding.enum.values.findIdx? standsFor := by
  unfold members EnumBindings.members
  rw [List.findIdx?_map]
  rfl

/-- A number stands for the members with that code. -/
theorem answersTo_number (member : Member) (code : ℤ) :
    member.answersTo (.number code) = decide (member.code = code) := by
  simp [Member.answersTo, eq_comm]

/-- A text stands for the members with that wire name. -/
theorem answersTo_text (member : Member) (wireName : String) :
    member.answersTo (.text wireName) = decide (member.wireName = wireName) := by
  simp [Member.answersTo, eq_comm]

/-- In the schema, distinct wire names are found in their own places. -/
theorem findIdx?_name (hdistinct : (binding.enum.values.map (·.name)).Nodup) {place : ℕ}
    {value : EnumValue} (hplace : binding.enum.values[place]? = some value) :
    binding.enum.values.findIdx? (·.name = value.name) = some place := by
  obtain ⟨hlength, hvalue⟩ := List.getElem?_eq_some_iff.mp hplace
  rw [List.findIdx?_eq_some_iff_getElem]
  refine ⟨hlength, by simp [hvalue], ?_⟩
  intro earlier hearlier
  have hplaceLength : place < (binding.enum.values.map (·.name)).length := by
    rw [List.length_map]
    exact hlength
  have hearlierLength : earlier < (binding.enum.values.map (·.name)).length := by omega
  have hne := List.pairwise_iff_getElem.mp hdistinct earlier place hearlierLength hplaceLength
    hearlier
  simpa [hvalue] using hne

section

variable (hemits : binding.options.emitsFromJson = true)
  (hidentifiers : ∀ value ∈ binding.enum.values, Text.isIdentifier value.name.toList = true)

include hemits hidentifiers

/-- An object that stands for some values leads to the place of the first of them. -/
theorem decodesTo_of_answersTo {object : Value} {standsFor : EnumValue → Bool} {place : ℕ}
    (hplace : binding.enum.values.findIdx? standsFor = some place)
    (hstands : ∀ member ∈ binding.members, member.answersTo object = standsFor member.value) :
    binding.DecodesTo object place := by
  rw [← findIdx?_members] at hplace
  refine decodesTo_of_findIdx? hplace ?_
  intro member hmember
  have hfind : binding.members.find? (·.answersTo object) = some member := by
    rw [← hmember]
    exact List.find?_congr hstands
  rw [decode_eq hemits hidentifiers, hfind, Option.some_or, outcomeOf]

/-- An object that stands for no value leads to the fallback. -/
theorem decode_of_unknown {object : Value}
    (hunknown : ∀ value ∈ binding.enum.values,
      object ≠ .number value.number ∧ object ≠ .text value.name) :
    binding.decode object = binding.outcomeOf binding.fallback := by
  have hfind : binding.members.find? (·.answersTo object) = none := by
    rw [List.find?_eq_none]
    intro member hmember
    obtain ⟨value, hvalue, rfl⟩ := List.mem_map.mp hmember
    obtain ⟨hnumber, htext⟩ := hunknown value hvalue
    simp [Member.answersTo, Member.code, Member.wireName, hnumber, htext]
  rw [decode_eq hemits hidentifiers, hfind, Option.none_or]

end

/-- A number leads to the first value with that code and a wire name to its own value. Every other
object leads to the first value with the code of the sentinel, or to the sentinel behind all values
if there is none, or without a sentinel is refused. -/
theorem decode_total (hemits : binding.options.emitsFromJson = true)
    (hdistinct : (binding.enum.values.map (·.name)).Nodup)
    (hidentifiers : ∀ value ∈ binding.enum.values, Text.isIdentifier value.name.toList = true) :
    (∀ code place, binding.enum.values.findIdx? (·.number = code) = some place →
      binding.DecodesTo (.number code) place) ∧
    (∀ place value, binding.enum.values[place]? = some value →
      binding.DecodesTo (.text value.name) place) ∧
    ∀ object, (∀ value ∈ binding.enum.values,
        object ≠ .number value.number ∧ object ≠ .text value.name) →
      (binding.options.sentinel = true →
        (∀ place, binding.enum.values.findIdx? (·.number = binding.options.sentinelCode) =
          some place → binding.DecodesTo object place) ∧
        ((∀ value ∈ binding.enum.values, value.number ≠ binding.options.sentinelCode) →
          binding.DecodesTo object binding.enum.values.length ∧
          binding.decode object =
            .gives (binding.reference ++ "." ++ binding.options.sentinelName))) ∧
      (binding.options.sentinel = false → binding.decode object = .throws) := by
  refine ⟨?_, ?_, ?_⟩
  · intro code place hplace
    exact decodesTo_of_answersTo hemits hidentifiers hplace
      fun member _ => answersTo_number member code
  · intro place value hplace
    exact decodesTo_of_answersTo hemits hidentifiers (findIdx?_name hdistinct hplace)
      fun member _ => answersTo_text member value.name
  · intro object hunknown
    have hdecode := decode_of_unknown hemits hidentifiers hunknown
    constructor
    · intro hsentinel
      rw [fallback_eq_some hsentinel] at hdecode
      constructor
      · intro place hplace
        rw [← findIdx?_members] at hplace
        refine decodesTo_of_findIdx? hplace ?_
        intro member hmember
        have hsentinelMember : binding.sentinelMember = member := by
          rw [sentinelMember]
          exact congrArg (Option.getD · _) hmember
        rw [hdecode, outcomeOf, hsentinelMember]
      · intro hfree
        obtain ⟨hsentinelMember, hdeclared⟩ := declares_addedSentinel hsentinel hfree
        rw [hsentinelMember] at hdecode
        exact ⟨⟨_, hdeclared, hdecode⟩, hdecode⟩
    · intro hsentinel
      rw [hdecode, fallback_eq_none hsentinel, outcomeOf]

/-- A code leads to the first value that has it, a wire name to its own value and an unknown code
to the added sentinel. -/
theorem decode_total_trafficLight :
    trafficLight.DecodesTo (.number 1) 1 ∧ trafficLight.DecodesTo (.text "RED") 2 ∧
      trafficLight.decode (.number 5) = .gives "Road.TrafficLight.UNRECOGNIZED" := by
  have hcode : trafficLight.reference ++ "." ++ trafficLight.options.sentinelName =
      "Road.TrafficLight.UNRECOGNIZED" := by
    decide +kernel
  obtain ⟨hnumber, htext, hunknown⟩ :=
    @decode_total trafficLight rfl (by decide) (by decide +kernel)
  obtain ⟨hsentinel, _⟩ := hunknown (.number 5) (by decide)
  obtain ⟨_, hadded⟩ := hsentinel rfl
  obtain ⟨_, hdecode⟩ := hadded (by decide)
  rw [hcode] at hdecode
  have hstop := hnumber 1 1 rfl
  have hred := htext 2 { name := "RED", number := 1 } rfl
  exact ⟨hstop, hred, hdecode⟩

end EnumBindings.Binding
