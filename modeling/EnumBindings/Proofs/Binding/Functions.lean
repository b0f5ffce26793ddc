import EnumBindings.Proofs.Binding.WellNamed

/-!
# What the functions of a binding come to

Each function of the code looks for the first member that its object stands for. Where there is
none, it falls back to the sentinel member, and without a sentinel it throws; the conversion to
numbers falls back to the code of the sentinel in any case. This makes one equation for each
function, over all objects.
-/

namespace EnumBindings

open Script

/-- Whether an object stands for a member in JSON: it is its code or its wire name. -/
def Member.answersTo (member : Member) (object : Value) : Bool :=
  object = .number member.code || object = .text member.wireName

namespace Binding

/-- The member that the conversion from JSON gives for an object, as it is spelled. -/
def decode (binding : Binding) (object : Value) : Outcome :=
  binding.program.run (binding.functionName "FromJSON") object

/-- The conversion to JSON, called on an object. -/
def encode (binding : Binding) (object : Value) : Result :=
  binding.program.call (binding.functionName "ToJSON") object

/-- The conversion to numbers, called on an object. -/
def encodeNumber (binding : Binding) (object : Value) : Result :=
  binding.program.call (binding.functionName "ToNumber") object

/-- The sentinel member: the first member of the schema with the code of the sentinel, or else
the added sentinel. -/
def sentinelMember (binding : Binding) : Member :=
  (binding.members.find? (·.code = binding.options.sentinelCode)).getD
    (addedSentinel binding.options)

/-- Where unknown objects lead, unless they are refused. -/
def fallback (binding : Binding) : Option Member :=
  if binding.options.sentinel then some binding.sentinelMember else none

/-- How the conversion from JSON ends, given the member that an object leads to. -/
def outcomeOf (binding : Binding) : Option Member → Outcome
  | some member => .gives (binding.program.memberCode member.name)
  | none => .throws

/-- What a member is in JSON. -/
def json (binding : Binding) (member : Member) : Value :=
  if binding.options.numericJson then .number member.code else .text member.wireName

/-- What the conversion to JSON comes to, given the member that an object leads to. -/
def resultOf (binding : Binding) : Option Member → Result
  | some member => .value (binding.json member)
  | none => .thrown

variable {binding : Binding}

/-- With a sentinel, the fallback is the sentinel member. -/
theorem fallback_eq_some (hsentinel : binding.options.sentinel = true) :
    binding.fallback = some binding.sentinelMember := by
  rw [fallback, if_pos hsentinel]

/-- Without a sentinel there is no fallback. -/
theorem fallback_eq_none (hsentinel : binding.options.sentinel = false) :
    binding.fallback = none := by
  rw [fallback, if_neg (by simp [hsentinel])]

/-- A sentinel is added where no member of the schema has its code. -/
theorem isAdded_eq_true_iff (binding : Binding) :
    binding.sentinel.isAdded binding.options = true ↔
      binding.options.sentinel = true ∧
        binding.members.find? (·.code = binding.options.sentinelCode) = none := by
  unfold sentinel Sentinel.find
  cases binding.members.find? (·.code = binding.options.sentinelCode) with
  | none => simp [Sentinel.isAdded, Sentinel.isTaken]
  | some member => simp [Sentinel.isAdded, Sentinel.isTaken]

/-- A sentinel is added where it is asked for and no value of the schema has its code. -/
theorem isAdded_iff_forall_values (binding : Binding) :
    binding.sentinel.isAdded binding.options = true ↔
      binding.options.sentinel = true ∧
        ∀ value ∈ binding.enum.values, value.number ≠ binding.options.sentinelCode := by
  rw [isAdded_eq_true_iff, List.find?_eq_none, members, EnumBindings.members, List.forall_mem_map]
  simp only [decide_eq_true_eq]
  rfl

/-- The sentinel member has the code of the sentinel. -/
theorem code_sentinelMember (binding : Binding) :
    binding.sentinelMember.code = binding.options.sentinelCode := by
  unfold sentinelMember
  cases hfind : binding.members.find? (·.code = binding.options.sentinelCode) with
  | none => rfl
  | some member => simpa using List.find?_some hfind

/-- With a sentinel, the sentinel member is declared. -/
theorem sentinelMember_mem (hsentinel : binding.options.sentinel = true) :
    binding.sentinelMember ∈ binding.allMembers := by
  unfold sentinelMember allMembers
  cases hfind : binding.members.find? (·.code = binding.options.sentinelCode) with
  | none =>
    rw [if_pos ((isAdded_eq_true_iff binding).mpr ⟨hsentinel, hfind⟩)]
    exact List.mem_append_right _ (List.mem_singleton_self _)
  | some member => exact List.mem_append_left _ (List.mem_of_find?_eq_some hfind)

/-- An object that stands for a declared member leads to the first such member, whether that is
the added sentinel or not. -/
theorem find?_or_fallback (standsFor : Member → Bool) {member : Member}
    (hmember : member ∈ binding.allMembers) (hstands : standsFor member = true) :
    (binding.members.find? standsFor).or binding.fallback = binding.allMembers.find? standsFor := by
  unfold allMembers
  rw [List.find?_append]
  cases hfind : binding.members.find? standsFor with
  | some first => rfl
  | none =>
    have hschema : member ∉ binding.members := by
      intro hmem
      exact List.find?_eq_none.mp hfind member hmem hstands
    obtain ⟨hadded, rfl⟩ := (mem_members_or_eq_addedSentinel hmember).resolve_left hschema
    obtain ⟨hsentinel, hcode⟩ := (isAdded_eq_true_iff binding).mp hadded
    have hsentinelMember : binding.sentinelMember = addedSentinel binding.options := by
      rw [sentinelMember, hcode, Option.getD_none]
    rw [if_pos hadded, List.find?_cons_of_pos hstands, fallback, if_pos hsentinel, hsentinelMember]

/-- An object that stands for a declared member leads to a declared member that it stands for. -/
theorem exists_first (standsFor : Member → Bool) {member : Member}
    (hmember : member ∈ binding.allMembers) (hstands : standsFor member = true) :
    ∃ first ∈ binding.allMembers, standsFor first = true ∧
      binding.allMembers.find? standsFor = some first ∧
      (binding.members.find? standsFor).or binding.fallback = some first := by
  rw [find?_or_fallback standsFor hmember hstands]
  cases hfirst : binding.allMembers.find? standsFor with
  | none => exact absurd hstands (List.find?_eq_none.mp hfirst member hmember)
  | some first =>
    exact ⟨first, List.mem_of_find?_eq_some hfirst, List.find?_some hfirst, rfl, rfl⟩

/-- The labels of a member in the conversion from JSON match the objects that stand for it. -/
theorem any_labels_fromJsonArm {member : Member}
    (hwireName : Text.isIdentifier member.wireName.toList = true) (object : Value) :
    ((binding.fromJsonArm member).branch.labels.any (binding.program.value? · == some object)) =
      member.answersTo object := by
  have hcode : binding.program.value? (Expression.number member.code).code =
      some (.number member.code) :=
    Program.value?_of_literal (ofLiteral?_number _)
  have hname : binding.program.value? (Expression.text member.wireName).code =
      some (.text member.wireName) :=
    Program.value?_of_literal (ofLiteral?_text (all_isPlain_of_isIdentifier hwireName))
  have hlabels : (binding.fromJsonArm member).branch.labels =
      [(Expression.number member.code).code, (Expression.text member.wireName).code] := rfl
  rw [hlabels, List.any_cons, List.any_cons, hcode, hname, List.any_nil, Bool.or_false]
  simp [Member.answersTo, Bool.beq_eq_decide_eq, eq_comm]

/-- The decision about the sentinel names the sentinel member. -/
theorem sentinel_cases (binding : Binding) :
    binding.sentinel = .absent ∧ binding.sentinelMember = addedSentinel binding.options ∨
      binding.sentinel =
        .taken binding.sentinelMember.name binding.sentinelMember.wireName := by
  unfold sentinel Sentinel.find sentinelMember
  cases binding.members.find? (·.code = binding.options.sentinelCode) with
  | none => exact Or.inl ⟨rfl, rfl⟩
  | some member => exact Or.inr rfl

/-- Without a sentinel, the conversion from JSON refuses everything else. -/
theorem fromJsonRest_eq_refusal (hsentinel : binding.options.sentinel = false)
    (sentinel : Sentinel) : binding.fromJsonRest sentinel = binding.refusal := by
  simp only [fromJsonRest, hsentinel, Bool.false_eq_true, if_false]

/-- Without a sentinel, the conversion to JSON refuses everything else. -/
theorem toJsonRest_eq_refusal (hsentinel : binding.options.sentinel = false)
    (sentinel : Sentinel) : binding.toJsonRest sentinel = binding.refusal := by
  simp only [toJsonRest, hsentinel, Bool.false_eq_true, if_false]

/-- The conversion from JSON ends in a default arm, which gives the sentinel member if there is
a sentinel. -/
theorem branch_fromJsonRest (binding : Binding) :
    (binding.fromJsonRest binding.sentinel).branch.isDefault = true ∧
      (binding.fromJsonRest binding.sentinel).branch.outcome =
        binding.outcomeOf binding.fallback := by
  cases hon : binding.options.sentinel with
  | false =>
    rw [fromJsonRest_eq_refusal hon, fallback_eq_none hon]
    exact ⟨rfl, rfl⟩
  | true =>
    rw [fallback_eq_some hon]
    simp only [fromJsonRest, hon, if_true]
    rcases sentinel_cases binding with ⟨hsentinel, hmember⟩ | hsentinel
    · rw [hsentinel, hmember]
      exact ⟨rfl, rfl⟩
    · rw [hsentinel]
      exact ⟨rfl, rfl⟩

/-- From JSON, an object leads to the first member that it stands for, or else to the fallback. Only
the wire names have to be identifiers. -/
theorem decode_eq (hemits : binding.options.emitsFromJson = true)
    (hwireNames : ∀ value ∈ binding.enum.values, Text.isIdentifier value.name.toList = true)
    (object : Value) :
    binding.decode object =
      binding.outcomeOf ((binding.members.find? (·.answersTo object)).or binding.fallback) := by
  have hfound : functionBranches (binding.functionName "FromJSON") binding.program.lines = _ :=
    functionBranches_fromJson hemits
  have hmatch : ∀ member ∈ binding.members,
      (binding.fromJsonArm member).branch.labels.any (binding.program.value? · == some object) =
        member.answersTo object := by
    intro member hmember
    obtain ⟨value, hvalue, hname⟩ := exists_value_of_mem_members hmember
    apply any_labels_fromJsonArm
    rw [← hname]
    exact hwireNames value hvalue
  obtain ⟨hdefault, hrest⟩ := branch_fromJsonRest binding
  rw [decode, Program.run_eq hfound (fun _ _ => rfl) hmatch hdefault, hrest]
  cases binding.members.find? (·.answersTo object) <;> rfl

/-- What is found, or fallen back to, is a declared member. -/
theorem mem_of_find?_or_fallback {standsFor : Member → Bool} {member : Member}
    (hfound : (binding.members.find? standsFor).or binding.fallback = some member) :
    member ∈ binding.allMembers := by
  rcases Option.or_eq_some_iff.mp hfound with hfind | ⟨_, hfallback⟩
  · exact List.mem_append_left _ (List.mem_of_find?_eq_some hfind)
  · unfold fallback at hfallback
    split at hfallback
    · next hsentinel =>
      rw [← Option.some.inj hfallback]
      exact sentinelMember_mem hsentinel
    · cases hfallback

/-- The default of the conversion to JSON spells the sentinel member, if there is a sentinel. -/
theorem branch_toJsonRest (binding : Binding) :
    (binding.toJsonRest binding.sentinel).branch.isDefault = true ∧
      (binding.toJsonRest binding.sentinel).branch.outcome =
        match binding.fallback with
        | some member => .gives (jsonValue binding.options member.wireName member.code).code
        | none => .throws := by
  cases hon : binding.options.sentinel with
  | false =>
    rw [toJsonRest_eq_refusal hon, fallback_eq_none hon]
    exact ⟨rfl, rfl⟩
  | true =>
    have hcode := code_sentinelMember binding
    rw [fallback_eq_some hon]
    simp only [toJsonRest, hon, if_true, hcode]
    rcases sentinel_cases binding with ⟨hsentinel, hmember⟩ | hsentinel
    · rw [hsentinel, hmember]
      exact ⟨rfl, rfl⟩
    · rw [hsentinel]
      exact ⟨rfl, rfl⟩

namespace WellNamed

variable (hnamed : binding.WellNamed)

include hnamed

/-- The label of a member matches the value that it holds. -/
theorem any_labels_memberArm {member : Member} (hmember : member ∈ binding.allMembers) {arm : Arm}
    (hlabels : arm.labels = [.value (binding.memberExpression member.name)]) (object : Value) :
    arm.branch.labels.any (binding.program.value? · == some object) =
      (binding.held member == object) := by
  have hcodes : arm.branch.labels = [binding.program.memberCode member.name] := by
    rw [Arm.branch, hlabels]
    rfl
  rw [hcodes, List.any_cons, hnamed.value?_memberCode hmember, List.any_nil, Bool.or_false]
  simp

/-- What a declared member is in JSON is spelled as a literal. -/
theorem value?_jsonValue {member : Member} (hmember : member ∈ binding.allMembers) :
    binding.program.value? (jsonValue binding.options member.wireName member.code).code =
      some (binding.json member) := by
  apply Program.value?_of_literal
  unfold jsonValue json
  split
  · exact ofLiteral?_number _
  · exact ofLiteral?_text (all_isPlain_of_isIdentifier (hnamed.isIdentifier_wireName hmember))

/-- A function with the label of a member on each of its arms comes to the arm of the first member
that holds the object, or else to its default. -/
theorem run_memberArms {ending : String} {arm : Member → Arm} {rest : Arm}
    (hfound : functionBranches (binding.functionName ending) binding.program.lines =
      (binding.members.map arm ++ [rest]).map Arm.branch)
    (hlabels : ∀ member, (arm member).labels = [.value (binding.memberExpression member.name)])
    (hdefault : rest.branch.isDefault = true) (object : Value) :
    binding.program.run (binding.functionName ending) object =
      ((binding.members.find? (binding.held · == object)).map fun member =>
        (arm member).branch.outcome).getD rest.branch.outcome := by
  have hlabelled : ∀ member ∈ binding.members, (arm member).branch.isDefault = false := by
    intro member _
    show (arm member).labels.any Label.isOtherwise = false
    rw [hlabels]
    rfl
  have hmatch : ∀ member ∈ binding.members,
      (arm member).branch.labels.any (binding.program.value? · == some object) =
        (binding.held member == object) := by
    intro member hmember
    exact hnamed.any_labels_memberArm (List.mem_append_left _ hmember) (hlabels member) object
  exact Program.run_eq hfound hlabelled hmatch hdefault

/-- To JSON, an object leads to the first member that holds it, or else to the fallback, as that is
in JSON. -/
theorem encode_eq (hemits : binding.options.emitsToJson = true) (object : Value) :
    binding.encode object = binding.resultOf
      ((binding.members.find? (binding.held · == object)).or binding.fallback) := by
  have hfound : functionBranches (binding.functionName "ToJSON") binding.program.lines = _ :=
    functionBranches_toJson hemits
  obtain ⟨hdefault, hrest⟩ := branch_toJsonRest binding
  have hrun : binding.program.run (binding.functionName "ToJSON") object =
      match (binding.members.find? (binding.held · == object)).or binding.fallback with
      | some member => .gives (jsonValue binding.options member.wireName member.code).code
      | none => .throws := by
    rw [hnamed.run_memberArms hfound (fun _ => rfl) hdefault, hrest]
    cases binding.members.find? (binding.held · == object) <;> rfl
  rw [encode, Program.call, hrun]
  cases hmember : (binding.members.find? (binding.held · == object)).or binding.fallback with
  | none => rfl
  | some member =>
    have hvalue := hnamed.value?_jsonValue (mem_of_find?_or_fallback hmember)
    simp only [hvalue, resultOf]

/-- To numbers, an object leads to the code of the first member that holds it, or else to the code
of the sentinel, with or without a sentinel. -/
theorem encodeNumber_eq (hemits : binding.options.emitsToNumber = true) (object : Value) :
    binding.encodeNumber object =
      .value (.number (((binding.members.find? (binding.held · == object)).map
        Member.code).getD binding.options.sentinelCode)) := by
  have hfound : functionBranches (binding.functionName "ToNumber") binding.program.lines = _ :=
    functionBranches_toNumber hemits
  have hdefault : (binding.toNumberRest binding.sentinel).branch.isDefault = true := by
    unfold toNumberRest
    split <;> rfl
  have hnumber (code : Int) :
      binding.program.value? (Expression.number code).code = some (.number code) :=
    Program.value?_of_literal (ofLiteral?_number code)
  have hrun : binding.program.run (binding.functionName "ToNumber") object =
      .gives (Expression.number (((binding.members.find? (binding.held · == object)).map
        Member.code).getD binding.options.sentinelCode)).code := by
    rw [hnamed.run_memberArms hfound (fun _ => rfl) hdefault]
    cases binding.members.find? (binding.held · == object) <;> rfl
  rw [encodeNumber, Program.call, hrun]
  simp only [hnumber]

end WellNamed

end Binding

end EnumBindings
