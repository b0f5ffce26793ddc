import EnumBindings.Proofs.Binding.Code

/-!
# Members in the code of a binding

An enumeration is well named if its wire names and the names of its members are distinct
identifiers. The members that are read from the code of such an enumeration are the declared ones
with the values they hold.
-/

namespace EnumBindings.Binding

open Script

/-- The added sentinel, as though it were declared in the schema. -/
def addedSentinel (options : Options) : Member where
  name := options.sentinelName
  value := { name := options.sentinelName, number := options.sentinelCode }

/-- The members of the declaration: those of the schema and the sentinel if it is added. -/
def allMembers (binding : Binding) : List Member :=
  binding.members ++
    if binding.sentinel.isAdded binding.options then [addedSentinel binding.options] else []

/-- The value that a member holds when the code runs. -/
def held (binding : Binding) (member : Member) : Value :=
  if binding.options.stringEnums then .text member.wireName else .number member.code

/-- An enumeration whose code says what it is meant to say: wire names and names of members are
distinct identifiers, and an added sentinel is told apart from the values on the wire. -/
structure WellNamed (binding : Binding) : Prop where
  wireNames_nodup : (binding.enum.values.map (·.name)).Nodup
  wireNames : ∀ value ∈ binding.enum.values, Text.isIdentifier value.name.toList = true
  names_nodup : (binding.declaration.members.map (·.name)).Nodup
  names : ∀ member ∈ binding.declaration.members, Text.isIdentifier member.name.toList = true
  sentinel : binding.sentinel.isAdded binding.options = true →
    ∀ value ∈ binding.enum.values, value.name ≠ binding.options.sentinelName

/-- An enumeration with an alias. The start that its first values share is taken off the names of
their members, and a sentinel is added. -/
def trafficLight : Binding where
  enum :=
    { name := "TrafficLight"
      fullName := "Road_TrafficLight"
      values := [{ name := "TRAFFIC_LIGHT_OFF", number := 0 },
        { name := "TRAFFIC_LIGHT_STOP", number := 1 }, { name := "RED", number := 1 }] }
  options :=
    { nestedEnumsAsNamespaces := true, stringEnums := true, removeEnumPrefix := true,
      numericJson := true }

theorem trafficLight_wellNamed : trafficLight.WellNamed where
  wireNames_nodup := by decide +kernel
  wireNames := by decide +kernel
  names_nodup := by decide +kernel
  names := by decide +kernel
  sentinel := by decide

variable {binding : Binding}

/-- A declared member is one of the schema or the added sentinel. -/
theorem mem_members_or_eq_addedSentinel {member : Member} (hmember : member ∈ binding.allMembers) :
    member ∈ binding.members ∨
      binding.sentinel.isAdded binding.options = true ∧ member = addedSentinel binding.options := by
  rcases List.mem_append.mp hmember with hmember | hmember
  · exact Or.inl hmember
  · split at hmember
    · next hadded => exact Or.inr ⟨hadded, List.mem_singleton.mp hmember⟩
    · cases hmember

/-- The names of the declared members are those of all members. -/
theorem names_declaredMembers (binding : Binding) :
    binding.declaredMembers.map (·.name) = binding.allMembers.map (·.name) := by
  unfold declaredMembers allMembers
  split <;> simp [declareMember, declareSentinel, addedSentinel, Function.comp_def]

/-- A member is declared for a member of the schema or as the added sentinel. -/
theorem exists_member_or_eq_declareSentinel {declared : DeclaredMember}
    (hdeclared : declared ∈ binding.declaredMembers) :
    (∃ member ∈ binding.members, declared = declareMember binding.options member) ∨
      binding.sentinel.isAdded binding.options = true ∧
        declared = declareSentinel binding.options := by
  rcases List.mem_append.mp hdeclared with hdeclared | hdeclared
  · obtain ⟨member, hmember, rfl⟩ := List.mem_map.mp hdeclared
    exact Or.inl ⟨member, hmember, rfl⟩
  · split at hdeclared
    · next hadded => exact Or.inr ⟨hadded, List.mem_singleton.mp hdeclared⟩
    · cases hdeclared

/-- What stands before a declared member is a remark. -/
theorem isRemark_of_mem_comment {declared : DeclaredMember}
    (hdeclared : declared ∈ binding.declaredMembers) :
    ∀ line ∈ declared.comment, IsRemark line := by
  intro line hline
  rcases exists_member_or_eq_declareSentinel hdeclared with ⟨member, _, rfl⟩ | ⟨_, rfl⟩
  · exact isRemark_of_mem_commentLines hline
  · cases hline

/-- The wire names of the members are the names of the values in the schema. -/
theorem wireNames_members (binding : Binding) :
    binding.members.map (·.wireName) = binding.enum.values.map (·.name) := by
  simp [members, EnumBindings.members, Member.wireName, Function.comp_def]

/-- A member of the schema comes from a value. -/
theorem exists_value_of_mem_members {member : Member} (hmember : member ∈ binding.members) :
    ∃ value ∈ binding.enum.values, value.name = member.wireName := by
  have hname : member.wireName ∈ binding.enum.values.map (·.name) := by
    rw [← wireNames_members]
    exact List.mem_map_of_mem hmember
  exact List.mem_map.mp hname

/-- The literal for a wire name or a code spells what it is to spell, if the name is an
identifier. -/
theorem ofLiteral?_code_heldValue (options : Options) {wireName : String}
    (hwireName : Text.isIdentifier wireName.toList = true) (code : Int) :
    Value.ofLiteral? (heldValue options wireName code).code.toList =
      some (if options.stringEnums then .text wireName else .number code) := by
  unfold heldValue
  split
  · exact ofLiteral?_text (all_isPlain_of_isIdentifier hwireName)
  · exact ofLiteral?_number _

namespace WellNamed

variable (hnamed : binding.WellNamed)

include hnamed

/-- The names of all members are distinct. -/
theorem nodup_names : (binding.allMembers.map (·.name)).Nodup := by
  rw [← names_declaredMembers]
  exact hnamed.names_nodup

/-- The names of all members are identifiers. -/
theorem isIdentifier_name {member : Member} (hmember : member ∈ binding.allMembers) :
    Text.isIdentifier member.name.toList = true := by
  have hname : member.name ∈ binding.declaredMembers.map (·.name) := by
    rw [names_declaredMembers]
    exact List.mem_map_of_mem hmember
  obtain ⟨declared, hdeclared, hname⟩ := List.mem_map.mp hname
  rw [← hname]
  exact hnamed.names declared hdeclared

/-- The wire names of all members are identifiers: that of an added sentinel is its name. -/
theorem isIdentifier_wireName {member : Member} (hmember : member ∈ binding.allMembers) :
    Text.isIdentifier member.wireName.toList = true := by
  rcases mem_members_or_eq_addedSentinel hmember with hschema | ⟨_, rfl⟩
  · obtain ⟨value, hvalue, hname⟩ := exists_value_of_mem_members hschema
    rw [← hname]
    exact hnamed.wireNames value hvalue
  · have hname := hnamed.isIdentifier_name hmember
    exact hname

/-- The wire names of all members are distinct. -/
theorem nodup_wireNames : (binding.allMembers.map (·.wireName)).Nodup := by
  have hschema : (binding.members.map (·.wireName)).Nodup := by
    rw [wireNames_members]
    exact hnamed.wireNames_nodup
  unfold allMembers
  split
  · next hadded =>
    rw [List.map_append, List.map_singleton, List.nodup_append]
    refine ⟨hschema, List.nodup_singleton _, ?_⟩
    intro wireName hwireName sentinel hsentinel heq
    obtain ⟨member, hmember, rfl⟩ := List.mem_map.mp hwireName
    obtain ⟨value, hvalue, hname⟩ := exists_value_of_mem_members hmember
    refine hnamed.sentinel hadded value hvalue ?_
    rw [hname, heq, List.mem_singleton.mp hsentinel]
    rfl
  · rw [List.append_nil]
    exact hschema

/-- The literal that is declared for a member spells the value that it holds. -/
theorem ofLiteral?_heldValue {member : Member} (hmember : member ∈ binding.allMembers) :
    Value.ofLiteral? (heldValue binding.options member.wireName member.code).code.toList =
      some (binding.held member) :=
  ofLiteral?_code_heldValue binding.options (hnamed.isIdentifier_wireName hmember) member.code

/-- The declared members can be read. -/
theorem readable {declared : DeclaredMember} (hdeclared : declared ∈ binding.declaration.members) :
    declared.Readable :=
  ⟨isRemark_of_mem_comment hdeclared, hnamed.names declared hdeclared⟩

/-- What is declared for a member is read as the member and the value that it holds. -/
theorem reading?_eq {member : Member} (hmember : member ∈ binding.allMembers)
    {declared : DeclaredMember} (hname : declared.name = member.name)
    (hvalue : declared.value = heldValue binding.options member.wireName member.code) :
    declared.reading? = some (member.name, binding.held member) := by
  rw [DeclaredMember.reading?, hvalue, hnamed.ofLiteral?_heldValue hmember, hname,
    Option.map_some]

/-- The declaration is read as all members with the values that they hold. -/
theorem filterMap_reading? :
    binding.declaredMembers.filterMap DeclaredMember.reading? =
      binding.allMembers.map fun member => (member.name, binding.held member) := by
  have hschema : (binding.members.map (declareMember binding.options)).filterMap
      DeclaredMember.reading? =
        binding.members.map fun member => (member.name, binding.held member) := by
    rw [List.filterMap_map, List.filterMap_eq_map_iff_forall_eq_some]
    intro member hmember
    exact hnamed.reading?_eq (List.mem_append_left _ hmember) rfl rfl
  have hsentinel (hadded : binding.sentinel.isAdded binding.options = true) :
      (declareSentinel binding.options).reading? = some
        ((addedSentinel binding.options).name, binding.held (addedSentinel binding.options)) := by
    refine hnamed.reading?_eq ?_ rfl rfl
    simp [allMembers, hadded]
  unfold declaredMembers allMembers
  rw [List.filterMap_append, List.map_append, hschema]
  split
  · next hadded => simp [hsentinel hadded]
  · rfl

/-- All members with the values they hold are read from the code, whatever stands behind it. -/
theorem readMembers_code_append (behind : List String) :
    readMembers binding.declaredName (binding.code ++ behind) =
      binding.allMembers.map fun member => (member.name, binding.held member) := by
  show readMembers binding.declaration.name (binding.code ++ behind) = _
  rw [code_eq, List.append_assoc,
    Declaration.readMembers_lines (fun _ => isRemark_of_mem_commentLines) fun _ => hnamed.readable]
  exact hnamed.filterMap_reading?

/-- The members that are read from the code are all members with the values they hold. -/
theorem members_program :
    binding.program.members =
      binding.allMembers.map fun member => (member.name, binding.held member) := by
  rw [← hnamed.readMembers_code_append [], List.append_nil]
  rfl

/-- The names that are read from the code are distinct. -/
theorem nodup_names_program : (binding.program.members.map (·.1)).Nodup := by
  simpa [hnamed.members_program, Function.comp_def] using hnamed.nodup_names

/-- A member is read from the code with the value that it holds. -/
theorem mem_members_program {member : Member} (hmember : member ∈ binding.allMembers) :
    (member.name, binding.held member) ∈ binding.program.members := by
  rw [hnamed.members_program]
  exact List.mem_map_of_mem hmember

/-- A member is found by its name in the code, with the value that it holds. -/
theorem memberValue?_name {member : Member} (hmember : member ∈ binding.allMembers) :
    binding.program.memberValue? member.name = some (binding.held member) := by
  have hentry := hnamed.mem_members_program hmember
  have hvalue := Program.memberValue?_eq hnamed.nodup_names_program hentry
  exact hvalue

/-- The expression for a member stands for the value that the member holds. -/
theorem value?_memberCode {member : Member} (hmember : member ∈ binding.allMembers) :
    binding.program.value? (binding.program.memberCode member.name) =
      some (binding.held member) := by
  have hentry := hnamed.mem_members_program hmember
  have hname := hnamed.isIdentifier_name hmember
  have hvalue := Program.value?_memberCode hnamed.nodup_names_program hentry hname
  exact hvalue

end WellNamed

end EnumBindings.Binding
