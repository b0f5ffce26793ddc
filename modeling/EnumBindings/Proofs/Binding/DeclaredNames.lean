import EnumBindings.Proofs.Binding.Clashes
import EnumBindings.Proofs.Binding.Legible
import EnumBindings.Proofs.Text.Identifiers

/-!
# Names that are cut

The names of a schema are identifiers. The names in generated code are made from them: the shared
start is taken off the names of values, full names are split at an underscore, and functions are
named by a full name and an ending. All of these are identifiers again, except what is left of a
name that is cut, if nothing is left of it or it begins with a digit then.
-/

namespace EnumBindings.Binding

open Text (IsAsciiIdentifier BeginsName isIdentifier)

/-- An enumeration of which a digit or nothing is left wherever a name is cut. -/
def cutShort : Binding where
  enum :=
    { name := "_1"
      fullName := "_1"
      values := [{ name := "_1_1", number := 0 }, { name := "_1_", number := 1 }] }
  options := { removeEnumPrefix := true, nestedEnumsAsNamespaces := true }

variable {binding : Binding} {name : String}

/-- A name is introduced by generated code: as that of a member, of the enumeration, of the scope
around it or of a conversion. -/
inductive Introduces (binding : Binding) : String → Prop
  | member {member : Script.DeclaredMember} (hmember : member ∈ binding.declaration.members) :
      Introduces binding member.name
  | declaration : Introduces binding binding.declaration.name
  | scope {scope : String} (hscope : scope ∈ binding.declaration.scope) : Introduces binding scope
  | conversion {conversion : Script.Conversion} (hconversion : conversion ∈ binding.conversions) :
      Introduces binding conversion.name

/-- A name is left when another one is cut: behind the shared start of a value, or on one side of
the last underscore of a full name. -/
inductive IsLeft (binding : Binding) : String → Prop
  | behindStart {value : EnumValue} {rest : String}
      (hremove : binding.options.removeEnumPrefix = true) (hvalue : value ∈ binding.enum.values)
      (hname : value.name = binding.enum.sharedStart ++ rest) : IsLeft binding rest
  | enclosing {enclosing localName : String}
      (hnested : binding.options.nestedEnumsAsNamespaces = true)
      (hname : binding.enum.fullName = enclosing ++ "_" ++ localName)
      (hlast : '_' ∉ localName.toList) : IsLeft binding enclosing
  | localName {enclosing localName : String}
      (hnested : binding.options.nestedEnumsAsNamespaces = true)
      (hname : binding.enum.fullName = enclosing ++ "_" ++ localName)
      (hlast : '_' ∉ localName.toList) : IsLeft binding localName

/-- What is left of a name is a part of a name in the schema. -/
theorem IsLeft.exists_infix (hleft : binding.IsLeft name)
    (hfullName : IsAsciiIdentifier binding.enum.fullName.toList)
    (hvalues : ∀ value ∈ binding.enum.values, IsAsciiIdentifier value.name.toList) :
    ∃ whole, IsAsciiIdentifier whole ∧ name.toList <:+: whole := by
  cases hleft with
  | behindStart _ hvalue hname =>
    refine ⟨_, hvalues _ hvalue, ?_⟩
    rw [hname, String.toList_append]
    exact (List.suffix_append _ _).isInfix
  | enclosing _ hname _ =>
    refine ⟨_, hfullName, ?_⟩
    rw [hname, String.toList_append, String.toList_append, List.append_assoc]
    exact (List.prefix_append _ _).isInfix
  | localName _ hname _ =>
    refine ⟨_, hfullName, ?_⟩
    rw [hname, String.toList_append]
    exact (List.suffix_append _ _).isInfix

/-- The functions for an enumeration are named by its full name and an ending. -/
theorem isIdentifier_of_mem_conversions
    (hfullName : IsAsciiIdentifier binding.enum.fullName.toList) {conversion : Script.Conversion}
    (hconversion : conversion ∈ binding.conversions) :
    isIdentifier conversion.name.toList = true := by
  obtain ⟨ending, hending, hname⟩ := exists_ending_of_mem_conversions hconversion
  have hparts : ∀ ending ∈ ["FromJSON", "ToJSON", "ToNumber"],
      ending.toList.all Text.isIdentifierPart = true := by
    decide
  rw [hname, functionName, String.toList_append]
  exact Text.isIdentifier_append (Text.isIdentifier_uncapitalize hfullName)
    (hparts ending (functionEndings_subset _ hending))

/-- A name that is introduced is an identifier or what is left of one. -/
theorem Introduces.isIdentifier_or_isLeft (hintroduces : binding.Introduces name)
    (hfullName : IsAsciiIdentifier binding.enum.fullName.toList)
    (hvalues : ∀ value ∈ binding.enum.values, IsAsciiIdentifier value.name.toList)
    (hsentinel : isIdentifier binding.options.sentinelName.toList = true) :
    isIdentifier name.toList = true ∨ binding.IsLeft name := by
  cases hintroduces with
  | member hmember =>
    have hname := List.mem_map_of_mem (f := (·.name)) hmember
    rw [map_name_declaration, List.mem_append, List.mem_map] at hname
    rcases hname with ⟨value, hvalue, hname⟩ | hname
    · rw [← hname]
      by_cases hstrips : binding.Strips value
      · have hwhole := (memberName_eq_iff_of_strips hstrips).mp rfl
        exact Or.inr (.behindStart hstrips.1 hvalue hwhole)
      · rw [memberName_of_not_strips hstrips]
        exact Or.inl (hvalues value hvalue).1
    · simp only [List.mem_ite_nil_right, List.mem_singleton] at hname
      rw [hname.2]
      exact Or.inl hsentinel
  | declaration =>
    show isIdentifier (EnumBindings.declaredName _ binding.scope).toList = true ∨
      binding.IsLeft (EnumBindings.declaredName _ binding.scope)
    cases hscope : binding.scope with
    | none => exact Or.inl hfullName.1
    | some scope =>
      obtain ⟨hnested, hname, hlast⟩ := Scope.split?_eq_some_iff.mp hscope
      exact Or.inr (.localName hnested hname hlast)
  | scope hscope =>
    obtain ⟨scope, hsplit, rfl⟩ := Option.map_eq_some_iff.mp hscope
    obtain ⟨hnested, hname, hlast⟩ := Scope.split?_eq_some_iff.mp hsplit
    exact Or.inr (.enclosing hnested hname hlast)
  | conversion hconversion =>
    exact Or.inl (isIdentifier_of_mem_conversions hfullName hconversion)

/-- Names in generated code are identifiers, those of conversions always and all others unless they
are left of a cut name and nothing is left of it or a digit comes first. -/
theorem isIdentifier_of_introduces (binding : Binding)
    (hfullName : IsAsciiIdentifier binding.enum.fullName.toList)
    (hvalues : ∀ value ∈ binding.enum.values, IsAsciiIdentifier value.name.toList)
    (hsentinel : isIdentifier binding.options.sentinelName.toList = true) :
    (∀ conversion ∈ binding.conversions, isIdentifier conversion.name.toList = true) ∧
      ∀ name, binding.Introduces name →
        (isIdentifier name.toList = true ↔ (binding.IsLeft name → BeginsName name.toList)) := by
  refine ⟨fun _ => isIdentifier_of_mem_conversions hfullName, fun name hintroduces => ?_⟩
  constructor
  · exact fun hname _ => Text.beginsName_of_isIdentifier hname
  · intro hbegins
    rcases hintroduces.isIdentifier_or_isLeft hfullName hvalues hsentinel with hname | hleft
    · exact hname
    · obtain ⟨whole, hwhole, hpart⟩ := hleft.exists_infix hfullName hvalues
      exact (Text.isIdentifier_iff_beginsName hwhole hpart).mpr (hbegins hleft)

/-- A name that has the shared start twice is left with it once, which is an identifier. -/
theorem isIdentifier_of_introduces_echo :
    echo.Introduces "ECHO_LOUD" ∧ echo.IsLeft "ECHO_LOUD" ∧
      isIdentifier "ECHO_LOUD".toList = true := by
  obtain ⟨_, hiff⟩ := isIdentifier_of_introduces echo (by decide +kernel)
    (by simp only [echo, List.forall_mem_cons]; decide +kernel) (by decide +kernel)
  have hdeclared : { comment := [], name := "ECHO_LOUD", value := .number 0 } ∈
      echo.declaration.members := by
    decide +kernel
  have hintroduces : echo.Introduces "ECHO_LOUD" := .member hdeclared
  have hvalue : { name := "ECHO_ECHO_LOUD", number := 0 } ∈ echo.enum.values := by decide
  have hleft : echo.IsLeft "ECHO_LOUD" := .behindStart rfl hvalue (by decide +kernel)
  exact ⟨hintroduces, hleft, (hiff _ hintroduces).mpr fun _ => ⟨'E', rfl, by decide⟩⟩

/-- A name that is cut need not leave an identifier, although all names in the schema are: digits
and empty names are left as names of members, of the enumeration and of the scope around it. -/
theorem introduces_cutShort :
    (IsAsciiIdentifier cutShort.enum.name.toList ∧ IsAsciiIdentifier cutShort.enum.fullName.toList ∧
        (∀ value ∈ cutShort.enum.values, IsAsciiIdentifier value.name.toList) ∧
        isIdentifier cutShort.options.sentinelName.toList = true) ∧
      (cutShort.declaration.members.map (·.name) = ["1", "", "UNRECOGNIZED"] ∧
        cutShort.declaration.name = "1" ∧ cutShort.declaration.scope = some "") ∧
      isIdentifier "1".toList = false ∧ isIdentifier "".toList = false := by
  refine ⟨⟨by decide +kernel, by decide +kernel, ?_, by decide +kernel⟩, ?_⟩
  · simp only [cutShort, List.forall_mem_cons]
    decide +kernel
  · decide +kernel

end EnumBindings.Binding
