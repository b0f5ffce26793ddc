import EnumBindings.Proofs.Binding.Functions
import EnumBindings.Proofs.Comment.Removal
import EnumBindings.Proofs.Naming.Scope

/-!
# Code that is read line by line

The code of a binding is written as one text. It can be cut into its lines again if no name breaks a
line, which holds of identifiers. No line of the code has a break, whatever the comments say and
however large the codes of values are.
-/

namespace EnumBindings

open Script

/-- Identifiers are single lines. -/
theorem unbroken_of_isIdentifier {name : String} (hname : Text.isIdentifier name.toList = true) :
    Unbroken name :=
  notMem_of_isIdentifier (by decide) hname

/-- Characters with different codes are different, also where one of the codes is none of a
character. -/
theorem ofNat_ne {code : Nat} {d : Char} (hpositive : 0 < d.toNat) (hcode : d.toNat < code) :
    Char.ofNat code ≠ d := by
  rintro rfl
  rw [Char.ofNat] at hpositive hcode
  by_cases hvalid : code.isValidChar
  · rw [dif_pos hvalid] at hcode
    exact Nat.lt_irrefl code hcode
  · rw [dif_neg hvalid] at hpositive
    exact absurd hpositive (by decide)

/-- The lower-case form of another character has no character before the small letters. -/
theorem notMem_lowerChar {c d : Char} (hpositive : 0 < d.toNat) (hd : d.toNat < 97) (hc : c ≠ d) :
    d ∉ Text.lowerChar c := by
  unfold Text.lowerChar Text.changeCase
  cases hrun : Text.lowerRuns.findSome? (·.image? c.toNat) with
  | some code =>
    obtain ⟨run, hmem, himage⟩ := List.exists_of_findSome?_eq_some hrun
    -- No run of the table leads before the small letters.
    have htargets : ∀ run ∈ Text.lowerRuns, 97 ≤ run.target := by decide +kernel
    have htarget := htargets run hmem
    unfold Text.CaseRun.image? at himage
    split at himage
    · have hsum := Option.some.inj himage
      simpa using (ofNat_ne hpositive (by omega : d.toNat < code)).symm
    · cases himage
  | none =>
    cases hexpansion : Text.lowerExpansions.lookup c.toNat with
    | none => simpa using Ne.symm hc
    | some codes =>
      have hlarge : ∀ expansion ∈ Text.lowerExpansions, ∀ code ∈ expansion.2, 97 ≤ code := by
        decide
      obtain ⟨before, behind, hlist, _⟩ := List.lookup_eq_some_iff.mp hexpansion
      have hmem : (c.toNat, codes) ∈ Text.lowerExpansions := by
        rw [hlist]
        exact List.mem_append_right _ List.mem_cons_self
      intro hchar
      obtain ⟨code, hcode, hvalue⟩ := List.mem_map.mp hchar
      have hlower := hlarge _ hmem code hcode
      exact ofNat_ne hpositive (by omega) hvalue

/-- Writing the first character small brings no character before the small letters into a name. -/
theorem notMem_uncapitalize {name : String} {d : Char} (hpositive : 0 < d.toNat)
    (hd : d.toNat < 97) (hname : d ∉ name.toList) : d ∉ (uncapitalize name).toList := by
  unfold uncapitalize
  cases hlist : name.toList with
  | nil => exact hname
  | cons first rest =>
    rw [hlist, List.mem_cons, not_or] at hname
    rw [String.toList_ofList, List.mem_append, not_or]
    exact ⟨notMem_lowerChar hpositive hd (Ne.symm hname.1), hname.2⟩

/-- Writing the first character small breaks no name. -/
theorem unbroken_uncapitalize {name : String} (hname : Unbroken name) :
    Unbroken (uncapitalize name) :=
  notMem_uncapitalize (by decide) (by decide) hname

/-- Taking the shared start off a name breaks it nowhere. -/
theorem unbroken_memberName {options : Options} {enum : EnumDescriptor} {value : EnumValue}
    (hname : Unbroken value.name) : Unbroken (memberName options enum value) := by
  unfold memberName
  split
  · unfold Text.withoutStart
    rw [unbroken_ofList]
    split
    · exact fun hbreak => hname (List.mem_of_mem_drop hbreak)
    · exact hname
  · exact hname

/-- What may stand before a comment on a member. -/
theorem isLead_memberName {name : String} (hname : Text.isIdentifier name.toList = true) :
    Comment.IsLead (name ++ " - ") where
  unbroken := unbroken_append.mpr ⟨unbroken_of_isIdentifier hname, by decide⟩
  closer := by
    intro hcloser
    have hstar : '*' ∈ (name ++ " - ").toList := hcloser.subset (by decide)
    rw [String.toList_append, List.mem_append] at hstar
    rcases hstar with hstar | hstar
    · exact notMem_of_isIdentifier (by decide) hname hstar
    · exact absurd hstar (by decide)
  last := by
    rw [String.toList_append, List.getLast?_append]
    simp

/-- Nothing needs to stand before a comment. -/
theorem isLead_empty : Comment.IsLead "" where
  unbroken := by decide
  closer := by simp [Comment.HasCloser]
  last := by decide

namespace Binding

/-- An enumeration whose code can be read line by line: its full name is a single line, and the
other names in the code are identifiers. -/
structure Legible (binding : Binding) : Prop where
  fullName : Unbroken binding.enum.fullName
  wireNames : ∀ value ∈ binding.enum.values, Text.isIdentifier value.name.toList = true
  names : ∀ member ∈ binding.members, Text.isIdentifier member.name.toList = true
  sentinelName : binding.sentinel.isAdded binding.options = true →
    Text.isIdentifier binding.options.sentinelName.toList = true

/-- An enumeration whose code is made of single lines: the names in it and the lines of its comments
are. -/
structure SingleLined (binding : Binding) : Prop where
  fullName : Unbroken binding.enum.fullName
  wireNames : ∀ member ∈ binding.members, Unbroken member.wireName
  names : ∀ member ∈ binding.members, Unbroken member.name
  sentinelName : binding.sentinel.isAdded binding.options = true →
    Unbroken binding.options.sentinelName
  comment : ∀ line ∈ binding.declaration.comment, Unbroken line
  memberComments : ∀ member ∈ binding.members,
    ∀ line ∈ (declareMember binding.options member).comment, Unbroken line

variable {binding : Binding}

/-- A well-named enumeration is legible if its full name is a single line. -/
theorem WellNamed.legible (hnamed : binding.WellNamed)
    (hfullName : Unbroken binding.enum.fullName) :
    binding.Legible where
  fullName := hfullName
  wireNames := hnamed.wireNames
  names := fun _ hmember => hnamed.isIdentifier_name (List.mem_append_left _ hmember)
  sentinelName := by
    intro hadded
    have hmember : addedSentinel binding.options ∈ binding.allMembers := by
      simp [allMembers, hadded]
    exact hnamed.isIdentifier_name hmember

/-- A comment that is kept consists of single lines. -/
theorem unbroken_of_mem_commentLines {options : Options} {comment : Option String}
    {deprecated : Bool} {lead : String} (hlead : Comment.IsLead lead) :
    ∀ line ∈ commentLines options comment deprecated lead, Unbroken line := by
  intro line hline
  unfold commentLines at hline
  split at hline
  · exact Comment.unbroken_of_mem_block hlead line hline
  · cases hline

/-- A value of the schema that takes the part of the sentinel is one of the members. -/
theorem exists_member_of_taken {name wireName : String}
    (hsentinel : binding.sentinel = .taken name wireName) :
    ∃ member ∈ binding.members, member.name = name ∧ member.wireName = wireName := by
  unfold sentinel Sentinel.find at hsentinel
  split at hsentinel
  · next member hfind =>
    obtain ⟨hname, hwireName⟩ := Sentinel.taken.inj hsentinel
    exact ⟨member, List.mem_of_find?_eq_some hfind, hname, hwireName⟩
  · cases hsentinel

/-- What a value is in JSON is spelled on a single line. -/
theorem unbroken_jsonValue {options : Options} {wireName : String} (hwireName : Unbroken wireName)
    (code : Int) : Unbroken (jsonValue options wireName code).code := by
  unfold jsonValue
  split
  · exact Expression.unbroken_number code
  · exact Expression.unbroken_text hwireName

/-- The value that a member holds is spelled on a single line. -/
theorem unbroken_heldValue {options : Options} {wireName : String} (hwireName : Unbroken wireName)
    (code : Int) : Unbroken (heldValue options wireName code).code := by
  unfold heldValue
  split
  · exact Expression.unbroken_text hwireName
  · exact Expression.unbroken_number code

/-- An arm that gives the value of an expression. -/
theorem unbroken_give {labels : List Label} {expression : Expression}
    (hlabels : ∀ label ∈ labels, label.Unbroken) (hexpression : Unbroken expression.code) :
    Arm.Unbroken ⟨labels, .give expression⟩ where
  labels := hlabels
  given := by
    intro given hgiven
    rwa [← Statement.give.inj hgiven]
  refused := by
    intro enumName hrefused
    cases hrefused

/-- Arms for the members and one for everything else. -/
theorem unbroken_arms {arm : Member → Arm} {rest : Arm}
    (harm : ∀ member ∈ binding.members, (arm member).Unbroken) (hrest : rest.Unbroken) :
    ∀ other ∈ binding.members.map arm ++ [rest], other.Unbroken := by
  intro other hother
  rcases List.mem_append.mp hother with hother | hother
  · obtain ⟨member, hmember, rfl⟩ := List.mem_map.mp hother
    exact harm member hmember
  · rw [List.mem_singleton.mp hother]
    exact hrest

namespace SingleLined

variable (hsingle : binding.SingleLined)

include hsingle

/-- The parts of a name that is split are single lines like the name. -/
theorem unbroken_scope {scope : Scope} (hscope : binding.scope = some scope) :
    Unbroken scope.enclosing ∧ Unbroken scope.localName := by
  have hfullName := hsingle.fullName
  rw [Unbroken, Scope.toList_of_split? hscope, List.mem_append, List.mem_cons, not_or,
    not_or] at hfullName
  exact ⟨hfullName.1, hfullName.2.2⟩

theorem unbroken_declaredName : Unbroken binding.declaredName := by
  unfold declaredName EnumBindings.declaredName
  cases hscope : binding.scope with
  | none => exact hsingle.fullName
  | some scope => exact (hsingle.unbroken_scope hscope).2

theorem unbroken_reference : Unbroken binding.reference := by
  unfold reference EnumBindings.reference
  cases hscope : binding.scope with
  | none => exact hsingle.fullName
  | some scope =>
    obtain ⟨henclosing, hlocal⟩ := hsingle.unbroken_scope hscope
    exact unbroken_append.mpr ⟨unbroken_append.mpr ⟨henclosing, by decide⟩, hlocal⟩

theorem unbroken_functionName {ending : String} (hending : Unbroken ending) :
    Unbroken (binding.functionName ending) :=
  unbroken_append.mpr ⟨unbroken_uncapitalize hsingle.fullName, hending⟩

theorem unbroken_memberExpression {name : String} (hname : Unbroken name) :
    Unbroken (binding.memberExpression name).code :=
  Expression.unbroken_member hsingle.unbroken_reference hname

/-- Everything else may be refused in the name of the enumeration. -/
theorem unbroken_refusal : binding.refusal.Unbroken where
  labels := List.forall_mem_singleton.mpr trivial
  given := by simp [refusal]
  refused := by
    intro enumName hrefused
    rw [← Statement.refuse.inj hrefused]
    exact hsingle.fullName

/-- With a sentinel, the names that it goes by are single lines, whether it is added or a value of
the schema takes its part. -/
theorem unbroken_sentinel (hsentinel : binding.options.sentinel = true) :
    binding.sentinel = .absent ∧ Unbroken binding.options.sentinelName ∨
      ∃ name wireName, binding.sentinel = .taken name wireName ∧ Unbroken name ∧
        Unbroken wireName := by
  cases hdecision : binding.sentinel with
  | absent =>
    have hadded : binding.sentinel.isAdded binding.options = true := by
      simp [Sentinel.isAdded, Sentinel.isTaken, hdecision, hsentinel]
    exact Or.inl ⟨rfl, hsingle.sentinelName hadded⟩
  | taken name wireName =>
    obtain ⟨member, hmember, rfl, rfl⟩ := exists_member_of_taken hdecision
    exact Or.inr ⟨_, _, rfl, hsingle.names _ hmember, hsingle.wireNames _ hmember⟩

/-- Everything else in the conversion from JSON. -/
theorem unbroken_fromJsonRest : (binding.fromJsonRest binding.sentinel).Unbroken := by
  cases hsentinel : binding.options.sentinel with
  | false =>
    rw [fromJsonRest_eq_refusal hsentinel]
    exact hsingle.unbroken_refusal
  | true =>
    simp only [fromJsonRest, hsentinel, if_true]
    rcases hsingle.unbroken_sentinel hsentinel with
      ⟨habsent, hname⟩ | ⟨name, wireName, htaken, hname, _⟩
    · rw [habsent]
      refine unbroken_give ?_ (hsingle.unbroken_memberExpression hname)
      simp only [List.forall_mem_cons, Label.Unbroken]
      exact ⟨Expression.unbroken_number _, Expression.unbroken_text hname, trivial, by simp⟩
    · rw [htaken]
      exact unbroken_give (List.forall_mem_singleton.mpr trivial)
        (hsingle.unbroken_memberExpression hname)

/-- Everything else in the conversion to JSON. -/
theorem unbroken_toJsonRest : (binding.toJsonRest binding.sentinel).Unbroken := by
  cases hsentinel : binding.options.sentinel with
  | false =>
    rw [toJsonRest_eq_refusal hsentinel]
    exact hsingle.unbroken_refusal
  | true =>
    simp only [toJsonRest, hsentinel, if_true]
    rcases hsingle.unbroken_sentinel hsentinel with
      ⟨habsent, hname⟩ | ⟨name, wireName, htaken, _, hwireName⟩
    · rw [habsent]
      refine unbroken_give ?_ (unbroken_jsonValue hname _)
      simp only [List.forall_mem_cons, Label.Unbroken]
      exact ⟨hsingle.unbroken_memberExpression hname, trivial, by simp⟩
    · rw [htaken]
      exact unbroken_give (List.forall_mem_singleton.mpr trivial) (unbroken_jsonValue hwireName _)

/-- Everything else in the conversion to numbers. -/
theorem unbroken_toNumberRest : (binding.toNumberRest binding.sentinel).Unbroken := by
  refine unbroken_give ?_ (Expression.unbroken_number _)
  split
  · next hadded =>
    have hname := hsingle.sentinelName hadded
    simp only [List.forall_mem_cons, Label.Unbroken]
    exact ⟨hsingle.unbroken_memberExpression hname, trivial, by simp⟩
  · exact List.forall_mem_singleton.mpr trivial

/-- The arms of the conversion from JSON. -/
theorem unbroken_fromJson :
    ∀ arm ∈ (binding.fromJson binding.sentinel).arms, arm.Unbroken := by
  refine unbroken_arms ?_ hsingle.unbroken_fromJsonRest
  intro member hmember
  refine unbroken_give ?_ (hsingle.unbroken_memberExpression (hsingle.names _ hmember))
  simp only [List.forall_mem_cons, Label.Unbroken]
  exact ⟨Expression.unbroken_number _,
    Expression.unbroken_text (hsingle.wireNames _ hmember), by simp⟩

/-- The arms of the conversion to JSON. -/
theorem unbroken_toJson :
    ∀ arm ∈ (binding.toJson binding.sentinel).arms, arm.Unbroken := by
  refine unbroken_arms ?_ hsingle.unbroken_toJsonRest
  intro member hmember
  exact unbroken_give
    (List.forall_mem_singleton.mpr
      (hsingle.unbroken_memberExpression (hsingle.names _ hmember)))
    (unbroken_jsonValue (hsingle.wireNames _ hmember) _)

/-- The arms of the conversion to numbers. -/
theorem unbroken_toNumber :
    ∀ arm ∈ (binding.toNumber binding.sentinel).arms, arm.Unbroken := by
  refine unbroken_arms ?_ hsingle.unbroken_toNumberRest
  intro member hmember
  exact unbroken_give
    (List.forall_mem_singleton.mpr
      (hsingle.unbroken_memberExpression (hsingle.names _ hmember)))
    (Expression.unbroken_number _)

/-- The lines of the conversions. -/
theorem unbroken_of_mem_conversions {conversion : Conversion}
    (hconversion : conversion ∈ binding.conversions) :
    ∀ line ∈ conversion.lines, Unbroken line := by
  have hreference := hsingle.unbroken_reference
  rcases eq_of_mem_conversions hconversion with rfl | rfl | rfl
  · exact Conversion.unbroken_of_mem_lines (hsingle.unbroken_functionName (by decide))
      (show Unbroken "any" by decide) hreference hsingle.unbroken_fromJson
  · refine Conversion.unbroken_of_mem_lines (hsingle.unbroken_functionName (by decide))
      hreference ?_ hsingle.unbroken_toJson
    show Unbroken (if binding.options.numericJson then "number" else "string")
    split <;> decide
  · exact Conversion.unbroken_of_mem_lines (hsingle.unbroken_functionName (by decide))
      hreference (show Unbroken "number" by decide) hsingle.unbroken_toNumber

/-- The declared members. -/
theorem unbroken_declaredMembers : ∀ member ∈ binding.declaredMembers, member.Unbroken := by
  intro declared hdeclared
  rcases exists_member_or_eq_declareSentinel hdeclared with
    ⟨member, hmember, rfl⟩ | ⟨hadded, rfl⟩
  · exact ⟨hsingle.memberComments member hmember, hsingle.names member hmember,
      unbroken_heldValue (hsingle.wireNames member hmember) _⟩
  · have hname := hsingle.sentinelName hadded
    exact ⟨by simp [declareSentinel], hname, unbroken_heldValue hname _⟩

/-- The lines of the declaration. -/
theorem unbroken_of_mem_declaration : ∀ line ∈ binding.declaration.lines, Unbroken line := by
  refine Declaration.unbroken_of_mem_lines hsingle.comment ?_
    hsingle.unbroken_declaredName hsingle.unbroken_declaredMembers
  intro enclosing henclosing
  obtain ⟨scope, hscope, rfl⟩ := Option.map_eq_some_iff.mp henclosing
  exact (hsingle.unbroken_scope hscope).1

/-- No line of the code has a break. -/
theorem unbroken_of_mem_code : ∀ line ∈ binding.code, Unbroken line := by
  intro line hline
  rw [code_eq, List.mem_append, List.mem_flatMap] at hline
  rcases hline with hline | ⟨conversion, hconversion, hline⟩
  · exact hsingle.unbroken_of_mem_declaration line hline
  · rcases List.mem_cons.mp hline with rfl | hline
    · decide
    · exact hsingle.unbroken_of_mem_conversions hconversion line hline

end SingleLined

namespace Legible

variable (hlegible : binding.Legible)

include hlegible

/-- The wire names of the members are identifiers. -/
theorem isIdentifier_wireName {member : Member} (hmember : member ∈ binding.members) :
    Text.isIdentifier member.wireName.toList = true := by
  obtain ⟨value, hvalue, hname⟩ := exists_value_of_mem_members hmember
  rw [← hname]
  exact hlegible.wireNames value hvalue

/-- The names of the declared members are identifiers. -/
theorem isIdentifier_of_mem_declaredMembers {declared : DeclaredMember}
    (hdeclared : declared ∈ binding.declaredMembers) :
    Text.isIdentifier declared.name.toList = true := by
  rcases exists_member_or_eq_declareSentinel hdeclared with
    ⟨member, hmember, rfl⟩ | ⟨hadded, rfl⟩
  · exact hlegible.names member hmember
  · exact hlegible.sentinelName hadded

/-- A legible enumeration is one of single lines, since a comment is cut into its lines. -/
theorem singleLined : binding.SingleLined where
  fullName := hlegible.fullName
  wireNames _ hmember := unbroken_of_isIdentifier (hlegible.isIdentifier_wireName hmember)
  names member hmember := unbroken_of_isIdentifier (hlegible.names member hmember)
  sentinelName hadded := unbroken_of_isIdentifier (hlegible.sentinelName hadded)
  comment := unbroken_of_mem_commentLines isLead_empty
  memberComments member hmember :=
    unbroken_of_mem_commentLines (isLead_memberName (hlegible.names member hmember))

/-- The lines of the conversions. -/
theorem unbroken_of_mem_conversions {conversion : Conversion}
    (hconversion : conversion ∈ binding.conversions) :
    ∀ line ∈ conversion.lines, Unbroken line :=
  hlegible.singleLined.unbroken_of_mem_conversions hconversion

/-- The lines of the declaration. -/
theorem unbroken_of_mem_declaration : ∀ line ∈ binding.declaration.lines, Unbroken line :=
  hlegible.singleLined.unbroken_of_mem_declaration

end Legible

end Binding

end EnumBindings
