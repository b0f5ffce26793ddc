import EnumBindings.Proofs.Binding.Decoding
import EnumBindings.Proofs.Output.Text

/-!
# Round trips

A member that is encoded and decoded again comes back as a member with the same code. It comes
back as the value that it was, unless members hold wire names but are encoded as codes: then
aliases are told apart by what they hold and not by what they are encoded as, and the first of
them comes back.
-/

namespace EnumBindings.Binding

open Script

/-- The conversion from JSON, called on an object. -/
def decodeValue (binding : Binding) (object : Value) : Result :=
  binding.program.call (binding.functionName "FromJSON") object

variable {binding : Binding}

/-- A number that is no code of a value leads to the fallback. -/
theorem decode_number_of_unknown (hemits : binding.options.emitsFromJson = true)
    (hidentifiers : ∀ value ∈ binding.enum.values, Text.isIdentifier value.name.toList = true)
    {number : ℤ} (hunknown : ∀ value ∈ binding.enum.values, value.number ≠ number) :
    binding.decode (.number number) = binding.outcomeOf binding.fallback := by
  apply decode_of_unknown hemits hidentifiers
  intro value hvalue
  refine ⟨?_, Value.noConfusion⟩
  intro hnumber
  exact hunknown value hvalue (Value.number.inj hnumber).symm

/-- Where members hold their codes, members with the same code hold the same value. -/
theorem held_eq_of_code_eq (hstring : binding.options.stringEnums = false) {member other : Member}
    (hcode : member.code = other.code) : binding.held member = binding.held other := by
  simp only [held, hstring, Bool.false_eq_true, if_false, hcode]

/-- A member is found by what it is in JSON. -/
theorem answersTo_json (binding : Binding) (member : Member) :
    member.answersTo (binding.json member) = true := by
  unfold json Member.answersTo
  split <;> simp

namespace WellNamed

variable (hnamed : binding.WellNamed)

include hnamed

/-- The name of a member is read as the value that the member holds. -/
theorem decodeValue_of_decode {object : Value} {member : Member}
    (hmember : member ∈ binding.allMembers)
    (hdecode : binding.decode object = .gives (binding.program.memberCode member.name)) :
    binding.decodeValue object = .value (binding.held member) := by
  have hvalue := hnamed.value?_memberCode hmember
  unfold decode at hdecode
  rw [decodeValue, Program.call, hdecode]
  simp only [hvalue]

/-- An object that stands for declared members leads to the first of them. -/
theorem decode_of_answersTo (hemits : binding.options.emitsFromJson = true) {object : Value}
    {member : Member} (hmember : member ∈ binding.allMembers)
    (hanswers : member.answersTo object = true) :
    ∃ first ∈ binding.allMembers, first.answersTo object = true ∧
      binding.allMembers.find? (·.answersTo object) = some first ∧
      binding.decode object = .gives (binding.program.memberCode first.name) := by
  obtain ⟨first, hfirst, hstands, hfind, hsearch⟩ :=
    exists_first (·.answersTo object) hmember hanswers
  refine ⟨first, hfirst, hstands, hfind, ?_⟩
  rw [decode_eq hemits hnamed.wireNames, hsearch, outcomeOf]

/-- The value that a declared member holds is encoded like the first member that holds it. -/
theorem encode_held (hemits : binding.options.emitsToJson = true) {member : Member}
    (hmember : member ∈ binding.allMembers) :
    ∃ first ∈ binding.allMembers, binding.held first = binding.held member ∧
      binding.encode (binding.held member) = .value (binding.json first) := by
  obtain ⟨first, hfirst, hheld, _, hsearch⟩ :=
    exists_first (binding.held · == binding.held member) hmember (beq_self_eq_true _)
  refine ⟨first, hfirst, eq_of_beq hheld, ?_⟩
  rw [hnamed.encode_eq hemits, hsearch, resultOf]

/-- Where members hold their wire names, a member is determined by the value that it holds. -/
theorem eq_of_held_eq (hstring : binding.options.stringEnums = true) {member other : Member}
    (hmember : member ∈ binding.allMembers) (hother : other ∈ binding.allMembers)
    (hheld : binding.held member = binding.held other) : member = other := by
  simp only [held, hstring, if_true] at hheld
  have hwireName : member.wireName = other.wireName := Value.text.inj hheld
  exact List.inj_on_of_nodup_map hnamed.nodup_wireNames hmember hother hwireName

/-- Members that hold the same value have the same code. -/
theorem code_eq_of_held_eq {member other : Member} (hmember : member ∈ binding.allMembers)
    (hother : other ∈ binding.allMembers) (hheld : binding.held member = binding.held other) :
    member.code = other.code := by
  cases hstring : binding.options.stringEnums with
  | true => rw [hnamed.eq_of_held_eq hstring hmember hother hheld]
  | false =>
    simp only [held, hstring, Bool.false_eq_true, if_false] at hheld
    exact Value.number.inj hheld

/-- What a declared member is in JSON leads to the first member with its code where members are
encoded as codes, and else to the member itself. -/
theorem decode_json (hemits : binding.options.emitsFromJson = true) {member : Member}
    (hmember : member ∈ binding.allMembers) :
    ∃ decoded ∈ binding.allMembers,
      binding.decode (binding.json member) =
        .gives (binding.program.memberCode decoded.name) ∧
      binding.json decoded = binding.json member ∧ decoded.code = member.code ∧
      (binding.options.numericJson = true →
        binding.allMembers.find? (·.code = member.code) = some decoded) ∧
      (binding.options.numericJson = false → decoded = member) := by
  obtain ⟨decoded, hdecoded, hanswers, hfind, hdecode⟩ :=
    hnamed.decode_of_answersTo hemits hmember (answersTo_json binding member)
  have hnumeric (hcodes : binding.options.numericJson = true) :
      binding.allMembers.find? (·.code = member.code) = some decoded := by
    have hsearch (other : Member) : other.answersTo (binding.json member) =
        decide (other.code = member.code) := by
      simp [json, hcodes, Member.answersTo, eq_comm]
    simpa only [hsearch] using hfind
  have htext (hnames : binding.options.numericJson = false) : decoded = member := by
    have hwireName : decoded.wireName = member.wireName := by
      simpa [json, hnames, Member.answersTo, eq_comm] using hanswers
    exact List.inj_on_of_nodup_map hnamed.nodup_wireNames hdecoded hmember hwireName
  have hcode : decoded.code = member.code := by
    cases hcodes : binding.options.numericJson with
    | true => simpa using List.find?_some (hnumeric hcodes)
    | false => rw [htext hcodes]
  have hjson : binding.json decoded = binding.json member := by
    cases hcodes : binding.options.numericJson with
    | true => simp only [json, hcodes, if_true, hcode]
    | false => rw [htext hcodes]
  exact ⟨decoded, hdecoded, hdecode, hjson, hcode, hnumeric, htext⟩

/-- The value of a member that is decoded from JSON is encoded in the same way again. -/
theorem encode_held_of_json_eq (hemits : binding.options.emitsToJson = true)
    {member first decoded : Member} (hdecoded : decoded ∈ binding.allMembers)
    (hheld : binding.held first = binding.held member)
    (hencode : binding.encode (binding.held member) = .value (binding.json first))
    (hcode : decoded.code = first.code) (hjson : binding.json decoded = binding.json first) :
    binding.encode (binding.held decoded) = .value (binding.json first) := by
  cases hstring : binding.options.stringEnums with
  | true =>
    obtain ⟨own, hown, hownHeld, hownEncode⟩ := hnamed.encode_held hemits hdecoded
    rw [hnamed.eq_of_held_eq hstring hown hdecoded hownHeld, hjson] at hownEncode
    exact hownEncode
  | false => rw [held_eq_of_code_eq hstring hcode, hheld, hencode]

/-- The value that a declared member holds is encoded as the code of the member. -/
theorem encodeNumber_held (hemits : binding.options.emitsToNumber = true) {member : Member}
    (hmember : member ∈ binding.allMembers) :
    binding.encodeNumber (binding.held member) = .value (.number member.code) := by
  rw [hnamed.encodeNumber_eq hemits]
  cases hfirst : binding.members.find? (binding.held · == binding.held member) with
  | some first =>
    have hheld : binding.held first = binding.held member := by
      simpa using List.find?_some hfirst
    have hfirst : first ∈ binding.allMembers :=
      List.mem_append_left _ (List.mem_of_find?_eq_some hfirst)
    rw [Option.map_some, Option.getD_some, hnamed.code_eq_of_held_eq hfirst hmember hheld]
  | none =>
    -- What no value of the schema holds can only be the added sentinel.
    have hschema : member ∉ binding.members := by
      intro hmem
      exact List.find?_eq_none.mp hfirst member hmem (beq_self_eq_true _)
    obtain ⟨_, rfl⟩ := (mem_members_or_eq_addedSentinel hmember).resolve_left hschema
    rfl

/-- The code of a declared member leads to the first member with that code. -/
theorem decode_code (hemits : binding.options.emitsFromJson = true) {member : Member}
    (hmember : member ∈ binding.allMembers) :
    ∃ first ∈ binding.allMembers, first.code = member.code ∧
      binding.allMembers.find? (·.code = member.code) = some first ∧
      binding.decode (.number member.code) =
        .gives (binding.program.memberCode first.name) := by
  have hanswers : member.answersTo (.number member.code) = true := by simp [Member.answersTo]
  obtain ⟨first, hfirst, hcode, hfind, hdecode⟩ :=
    hnamed.decode_of_answersTo hemits hmember hanswers
  simp only [answersTo_number] at hcode hfind
  exact ⟨first, hfirst, of_decide_eq_true hcode, hfind, hdecode⟩

/-- The code of a declared member survives decoding and encoding. -/
theorem encodeNumber_decode_code (hto : binding.options.emitsToNumber = true)
    (hfrom : binding.options.emitsFromJson = true) {member : Member}
    (hmember : member ∈ binding.allMembers) :
    (binding.decodeValue (.number member.code)).bind binding.encodeNumber =
      .value (.number member.code) := by
  obtain ⟨first, hfirst, hcode, _, hdecode⟩ := hnamed.decode_code hfrom hmember
  rw [hnamed.decodeValue_of_decode hfirst hdecode, Result.bind,
    hnamed.encodeNumber_held hto hfirst, hcode]

/-- With a sentinel, a number that is no code becomes the code of the sentinel. -/
theorem encodeNumber_decode_of_unknown (hto : binding.options.emitsToNumber = true)
    (hfrom : binding.options.emitsFromJson = true)
    (hsentinel : binding.options.sentinel = true) {number : ℤ}
    (hunknown : ∀ value ∈ binding.enum.values, value.number ≠ number) :
    (binding.decodeValue (.number number)).bind binding.encodeNumber =
      .value (.number binding.options.sentinelCode) := by
  have hmember := sentinelMember_mem hsentinel
  have hdecode := decode_number_of_unknown hfrom hnamed.wireNames hunknown
  rw [fallback_eq_some hsentinel, outcomeOf] at hdecode
  rw [hnamed.decodeValue_of_decode hmember hdecode, Result.bind,
    hnamed.encodeNumber_held hto hmember, code_sentinelMember]

end WellNamed

/-- The value of a declared member can be encoded and decoded again. This gives a member with the
same code, which is encoded alike. It has the same value unless members hold wire names, are encoded
as codes and an earlier one shares the code; then it is the first with that code. -/
theorem decode_encode (hnamed : binding.WellNamed)
    (hfrom : binding.options.emitsFromJson = true) (hto : binding.options.emitsToJson = true) :
    ∀ member ∈ binding.allMembers, ∃ object json back, ∃ decoded ∈ binding.allMembers,
      binding.program.memberValue? member.name = some object ∧
      binding.encode object = .value json ∧
      binding.decode json = .gives (binding.program.memberCode decoded.name) ∧
      binding.program.memberValue? decoded.name = some back ∧
      (binding.encode object).bind binding.decodeValue = .value back ∧
      decoded.code = member.code ∧
      (¬(binding.options.stringEnums = true ∧ binding.options.numericJson = true ∧
          binding.allMembers.find? (·.code = member.code) ≠ some member) → back = object) ∧
      (binding.options.stringEnums = true → binding.options.numericJson = true →
        binding.allMembers.find? (·.code = member.code) = some decoded) ∧
      binding.encode back = .value json := by
  intro member hmember
  obtain ⟨first, hfirst, hheld, hencode⟩ := hnamed.encode_held hto hmember
  obtain ⟨decoded, hdecoded, hdecode, hjson, hcode, hnumeric, htext⟩ :=
    hnamed.decode_json hfrom hfirst
  have hfirstCode : first.code = member.code := hnamed.code_eq_of_held_eq hfirst hmember hheld
  have hback : (binding.encode (binding.held member)).bind binding.decodeValue =
      .value (binding.held decoded) := by
    rw [hencode, Result.bind]
    exact hnamed.decodeValue_of_decode hdecoded hdecode
  refine ⟨_, _, _, decoded, hdecoded, hnamed.memberValue?_name hmember, hencode, hdecode,
    hnamed.memberValue?_name hdecoded, hback, hcode.trans hfirstCode, ?_, ?_, ?_⟩
  · intro hsame
    cases hstring : binding.options.stringEnums with
    | false => exact held_eq_of_code_eq hstring (hcode.trans hfirstCode)
    | true =>
      cases hcodes : binding.options.numericJson with
      | false => rw [htext hcodes, hheld]
      | true =>
        have hfind : binding.allMembers.find? (·.code = member.code) = some member := by
          by_contra hearlier
          exact hsame ⟨hstring, hcodes, hearlier⟩
        rw [← hfirstCode, hnumeric hcodes] at hfind
        rw [Option.some.inj hfind]
  · intro _ hcodes
    rw [← hfirstCode]
    exact hnumeric hcodes
  · exact hnamed.encode_held_of_json_eq hto hdecoded hheld hencode hcode hjson

/-- Through its code, an alias comes back as the first value with that code. -/
theorem decode_encode_trafficLight :
    ∃ object json, trafficLight.program.memberValue? "RED" = some object ∧
      trafficLight.encode object = .value json ∧
      trafficLight.decode json = .gives "Road.TrafficLight.STOP" := by
  have hmember : ⟨"RED", { name := "RED", number := 1 }⟩ ∈ trafficLight.allMembers := by
    decide +kernel
  have hfirst : trafficLight.allMembers.find? (·.code = 1) =
      some ⟨"STOP", { name := "TRAFFIC_LIGHT_STOP", number := 1 }⟩ := by
    decide +kernel
  have hcode : trafficLight.program.memberCode "STOP" = "Road.TrafficLight.STOP" := by
    decide +kernel
  obtain ⟨object, json, _, decoded, _, hobject, hencode, hdecode, _, _, _, _, hfind, _⟩ :=
    decode_encode trafficLight_wellNamed rfl rfl _ hmember
  rw [← Option.some.inj (hfirst.symm.trans (hfind rfl rfl)), hcode] at hdecode
  exact ⟨object, json, hobject, hencode, hdecode⟩

/-- String enumerations with methods for encoding are written with both conversions that these need,
whatever is asked for in JSON, if they have a full name and no code is too long. The code of a value
survives decoding and encoding; any other number becomes the code of the sentinel, or is refused
without one. From the code of a declared member the first member with that code is decoded. -/
theorem encodeNumber_decode {limits : Limits} (hnamed : binding.WellNamed)
    (hfullName : binding.enum.fullName ≠ "")
    (hvalues : ∀ value ∈ binding.enum.values, limits.allowsNumber value.number = true)
    (hsentinel : limits.allowsNumber binding.options.sentinelCode = true)
    (hstring : binding.options.stringEnums = true)
    (hmethods : binding.options.encodeMethods = true) :
    (∃ draft, (Draft.addEnum binding.options {} binding.enum limits).outcome = .ok draft ∧
      draft.body = joinLines binding.program.lines ∧
      ((∀ line ∈ binding.program.lines, '\n' ∉ line.toList) →
        (Text.pieces '\n' draft.body.toList).map String.ofList = binding.program.lines)) ∧
    binding.program.defines (binding.functionName "FromJSON") = true ∧
    binding.program.defines (binding.functionName "ToNumber") = true ∧
    (∀ number : ℤ,
      ((∃ value ∈ binding.enum.values, value.number = number) →
        (binding.decodeValue (.number number)).bind binding.encodeNumber =
          .value (.number number)) ∧
      ((∀ value ∈ binding.enum.values, value.number ≠ number) →
        (binding.options.sentinel = true →
          (binding.decodeValue (.number number)).bind binding.encodeNumber =
            .value (.number binding.options.sentinelCode)) ∧
        (binding.options.sentinel = false → binding.decode (.number number) = .throws))) ∧
    ∀ member ∈ binding.allMembers, ∃ object number first,
      binding.program.memberValue? member.name = some object ∧
      binding.encodeNumber object = .value number ∧
      binding.allMembers.find? (·.code = member.code) = some first ∧
      binding.decode number = .gives (binding.program.memberCode first.name) := by
  have htoNumber : binding.options.emitsToNumber = true := by
    rw [Options.emitsToNumber, hstring, hmethods, Bool.true_and]
  have hfromJson : binding.options.emitsFromJson = true := by
    rw [Options.emitsFromJson, htoNumber, Bool.or_true]
  refine ⟨?_, ?_, ?_, ?_, ?_⟩
  · exact body_addEnum (EnumDescriptor.writable_of_codes hfullName hvalues hsentinel)
  · have hdefines := defines_conversion (fromJson_mem_conversions hfromJson)
    exact hdefines
  · have hdefines := defines_conversion (toNumber_mem_conversions htoNumber)
    exact hdefines
  · intro number
    constructor
    · rintro ⟨value, hvalue, rfl⟩
      have hmember : ⟨memberName binding.options binding.enum value, value⟩ ∈
          binding.allMembers :=
        List.mem_append_left _ (List.mem_map_of_mem hvalue)
      have hback := hnamed.encodeNumber_decode_code htoNumber hfromJson hmember
      exact hback
    · intro hunknown
      constructor
      · intro hsentinel
        exact hnamed.encodeNumber_decode_of_unknown htoNumber hfromJson hsentinel hunknown
      · intro hsentinel
        rw [decode_number_of_unknown hfromJson hnamed.wireNames hunknown,
          fallback_eq_none hsentinel, outcomeOf]
  · intro member hmember
    obtain ⟨first, _, _, hfind, hdecode⟩ := hnamed.decode_code hfromJson hmember
    exact ⟨_, _, first, hnamed.memberValue?_name hmember,
      hnamed.encodeNumber_held htoNumber hmember, hfind, hdecode⟩

/-- A shared code survives, and an unknown one becomes the code of the sentinel. -/
theorem encodeNumber_decode_trafficLight :
    (∃ draft, (Draft.addEnum trafficLight.options {} trafficLight.enum (.ordinary 900)).outcome =
      .ok draft) ∧
      (trafficLight.decodeValue (.number 1)).bind trafficLight.encodeNumber = .value (.number 1) ∧
      (trafficLight.decodeValue (.number 5)).bind trafficLight.encodeNumber =
        .value (.number (-1)) := by
  obtain ⟨⟨draft, hdraft, _⟩, _, _, hnumber, _⟩ := @encodeNumber_decode trafficLight
    (.ordinary 900) trafficLight_wellNamed (by decide) (by decide) (by decide) rfl rfl
  have hknown := (hnumber 1).1 ⟨{ name := "RED", number := 1 }, by decide, rfl⟩
  have hunknown := (hnumber 5).2 (by decide)
  exact ⟨⟨draft, hdraft⟩, hknown, hunknown.1 rfl⟩

/-- Nothing is written for an enumeration without a full name, nor for one with too long a code,
though both are well named. -/
theorem addEnum_refused_farAway :
    let options : Options := { stringEnums := true, encodeMethods := true, sentinel := false }
    let lost : EnumDescriptor := { name := "Lost", fullName := "" }
    (Binding.mk lost options).WellNamed ∧ (Binding.mk farAway options).WellNamed ∧
      (Draft.addEnum options {} lost (.ordinary 900)).outcome =
        .error (.refused ⟨.emptyName, some "Lost"⟩) ∧
      (Draft.addEnum options {} farAway (.ordinary 900)).outcome = .error .longNumber := by
  intro options lost
  have hlost : (Binding.mk lost options).WellNamed := by
    constructor <;> decide
  have hfar : (Binding.mk farAway options).WellNamed := by
    constructor <;> decide +kernel
  have hlong : (Binding.mk farAway options).fits (.ordinary 900) = false := by
    have hfromJson := @fromJson_fits_eq_false ⟨farAway, options⟩ (.ordinary 900) _
      List.mem_cons_self (allowsNumber_longNumber 900) (Binding.mk farAway options).sentinel
    exact List.all_eq_false.mpr ⟨_, List.mem_cons_of_mem _ List.mem_cons_self, by simp [hfromJson]⟩
  exact ⟨hlost, hfar, outcome_addEnum_of_unnamed rfl {},
    outcome_addEnum_of_not_fits (by decide) hlong {}⟩

end EnumBindings.Binding
