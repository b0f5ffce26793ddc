import EnumBindings.Proofs.Output.Lines
import EnumBindings.Proofs.Script.Entries

/-!
# Reading a declaration from its text

The declaration of an enumeration is added to a draft as one text. If the names in it are
identifiers, nothing is lost in the text. Whatever comments say, the entries that are read from it
are those of the values in the order of the schema, and that of the sentinel if it is added.
-/

namespace EnumBindings.Binding

open Script

/-- How the value of a member is spelled: as a wire name between quotes or as a decimal code. -/
def spelledValue (options : Options) (wireName : String) (code : Int) : String :=
  if options.stringEnums then "\"" ++ wireName ++ "\"" else toString code

/-- The entries that the declaration is to have. Values with a common code all have one; the
sentinel has one if it is asked for and no value has its code. -/
def entries (binding : Binding) : List (String × String) :=
  binding.enum.values.map (fun value =>
    (memberName binding.options binding.enum value,
      spelledValue binding.options value.name value.number)) ++
  if binding.options.sentinel = true ∧
      ∀ value ∈ binding.enum.values, value.number ≠ binding.options.sentinelCode then
    [(binding.options.sentinelName,
      spelledValue binding.options binding.options.sentinelName binding.options.sentinelCode)]
  else []

/-- An enumeration with an alias, codes of either sign and comments that imitate its code. -/
def signal : Binding where
  enum :=
    { name := "Signal"
      fullName := "Rail_Road_Signal"
      comment := some "export const Signal = \x7b\n*/ GREEN: 7,\n\x7d"
      values := [{ name := "SIGNAL_OFF", number := -4, comment := some "\x7d as const;\nRED: 5," },
        { name := "STOP", number := 36893488147419103232, deprecated := true },
        { name := "SIGNAL_RED", number := 36893488147419103232 }] }
  options :=
    { nestedEnumsAsNamespaces := true, enumsAsLiterals := true, removeEnumPrefix := true }

variable {binding : Binding}

/-- The entry of a declared member has the name of the member and the spelling of its value. -/
theorem spelling?_eq {declared : DeclaredMember} {options : Options} {wireName : String}
    {code : Int} (hwireName : Text.isIdentifier wireName.toList = true)
    (hvalue : declared.value = heldValue options wireName code) :
    declared.spelling? = some (declared.name, spelledValue options wireName code) := by
  have hspelled : (heldValue options wireName code).code = spelledValue options wireName code := by
    unfold heldValue spelledValue
    split <;> rfl
  rw [DeclaredMember.spelling?, hvalue, ofLiteral?_code_heldValue options hwireName,
    Option.map_some, hspelled]

/-- A full name is a single line if the names that it is made of are identifiers. -/
theorem unbroken_fullName (hdeclared : Text.isIdentifier binding.declaredName.toList = true)
    (henclosing : ∀ scope ∈ binding.scope, Text.isIdentifier scope.enclosing.toList = true) :
    Unbroken binding.enum.fullName := by
  unfold declaredName EnumBindings.declaredName at hdeclared
  cases hscope : binding.scope with
  | none =>
    rw [hscope] at hdeclared
    exact unbroken_of_isIdentifier hdeclared
  | some scope =>
    rw [hscope] at hdeclared
    have hlocal := unbroken_of_isIdentifier hdeclared
    have houter := unbroken_of_isIdentifier (henclosing scope hscope)
    rw [Unbroken, Scope.toList_of_split? hscope, List.mem_append, List.mem_cons, not_or, not_or]
    exact ⟨houter, by decide, hlocal⟩

namespace Legible

variable (hlegible : binding.Legible)

include hlegible

/-- The declared members have the entries that they are to have. -/
theorem filterMap_spelling? :
    binding.declaredMembers.filterMap DeclaredMember.spelling? = binding.entries := by
  have hschema : (binding.members.map (declareMember binding.options)).filterMap
      DeclaredMember.spelling? = binding.enum.values.map fun value =>
        (memberName binding.options binding.enum value,
          spelledValue binding.options value.name value.number) := by
    rw [members, EnumBindings.members, List.map_map, List.filterMap_map,
      List.filterMap_eq_map_iff_forall_eq_some]
    intro value hvalue
    exact spelling?_eq (hlegible.wireNames value hvalue) rfl
  have hsentinel (hadded : binding.sentinel.isAdded binding.options = true) :
      (declareSentinel binding.options).spelling? = some (binding.options.sentinelName,
        spelledValue binding.options binding.options.sentinelName binding.options.sentinelCode) :=
    spelling?_eq (hlegible.sentinelName hadded) rfl
  unfold declaredMembers entries
  rw [List.filterMap_append, hschema]
  -- The code decides about the sentinel by a search, the entries by a statement about all values.
  by_cases hadded : binding.sentinel.isAdded binding.options = true
  · rw [if_pos hadded, if_pos ((isAdded_iff_forall_values binding).mp hadded),
      List.filterMap_cons, hsentinel hadded, List.filterMap_nil]
  · rw [if_neg hadded, if_neg (mt (isAdded_iff_forall_values binding).mpr hadded),
      List.filterMap_nil]

/-- The declared members can be read. -/
theorem readable_declared {declared : DeclaredMember}
    (hdeclared : declared ∈ binding.declaration.members) : declared.Readable :=
  ⟨isRemark_of_mem_comment hdeclared, hlegible.isIdentifier_of_mem_declaredMembers hdeclared⟩

/-- The entries are read from the lines of the declaration. -/
theorem readEntries_lines :
    readEntries binding.declaredName binding.declaration.lines = binding.entries := by
  have hread := Declaration.readEntries_lines (fun _ => isRemark_of_mem_commentLines)
    (fun _ => hlegible.readable_declared) []
  rw [List.append_nil] at hread
  exact hread.trans hlegible.filterMap_spelling?

/-- The entries have the names of the declared members. -/
theorem map_fst_entries : binding.entries.map Prod.fst = binding.declaredMembers.map (·.name) := by
  have hentry : ∀ declared ∈ binding.declaredMembers,
      declared.spelling?.map Prod.fst = some declared.name := by
    intro declared hdeclared
    rcases exists_member_or_eq_declareSentinel hdeclared with
      ⟨member, hmember, rfl⟩ | ⟨hadded, rfl⟩
    · rw [spelling?_eq (hlegible.isIdentifier_wireName hmember) rfl, Option.map_some]
    · rw [spelling?_eq (hlegible.sentinelName hadded) rfl, Option.map_some]
  rw [← hlegible.filterMap_spelling?, List.map_filterMap,
    List.filterMap_eq_map_iff_forall_eq_some.mpr hentry]

/-- The types that follow a constant object name the members of the entries. -/
theorem readAliases_lines (hliteral : binding.options.enumsAsLiterals = true) :
    readAliases binding.declaredName binding.declaration.lines = binding.entries.map Prod.fst := by
  have hrepresentation : binding.declaration.representation = .literal := by
    show Representation.ofOptions binding.options = .literal
    rw [Representation.ofOptions, if_pos hliteral]
  have hread := Declaration.readAliases_lines hrepresentation
    (fun _ => isRemark_of_mem_commentLines) (fun _ => hlegible.readable_declared) []
  rw [List.append_nil] at hread
  rw [hlegible.map_fst_entries]
  exact hread

end Legible

/-- Whatever comments say and however large codes are, the declaration is added to any draft as one
text, from which nothing but its entries is read. Where it is a constant object, the types that
follow it name the same members. -/
theorem declaration_reads_back (binding : Binding)
    (hdeclared : Text.isIdentifier binding.declaredName.toList = true)
    (henclosing : ∀ scope ∈ binding.scope, Text.isIdentifier scope.enclosing.toList = true)
    (hwireNames : ∀ value ∈ binding.enum.values, Text.isIdentifier value.name.toList = true)
    (hnames : ∀ member ∈ binding.members, Text.isIdentifier member.name.toList = true)
    (hsentinel : Text.isIdentifier binding.options.sentinelName.toList = true) :
    ∃ text, (∀ draft : Draft, (draft.add binding.declaration.fragment).fragments =
        draft.fragments ++ [text]) ∧
      readEntries binding.declaredName (textLines text) = binding.entries ∧
      (binding.options.enumsAsLiterals = true →
        readAliases binding.declaredName (textLines text) = binding.entries.map Prod.fst) := by
  have hlegible : binding.Legible :=
    ⟨unbroken_fullName hdeclared henclosing, hwireNames, hnames, fun _ => hsentinel⟩
  obtain ⟨line, hline, hbrace⟩ := binding.declaration.exists_brace
  have hlines : textLines (joinLines binding.declaration.lines) = binding.declaration.lines :=
    textLines_joinLines (List.ne_nil_of_mem hline) hlegible.unbroken_of_mem_declaration
  refine ⟨joinLines binding.declaration.lines, ?_, ?_, ?_⟩
  · intro draft
    rw [Draft.fragments_add]
    exact congrArg _ (visibleCode_of_mem hline hbrace)
  · rw [hlines, hlegible.readEntries_lines]
  · intro hliteral
    rw [hlines, hlegible.readAliases_lines hliteral]

/-- Comments that imitate entries are not read, and an alias and large codes are. -/
theorem declaration_reads_back_signal :
    ∃ text, readEntries "Signal" (textLines text) =
        [("OFF", "-4"), ("STOP", "36893488147419103232"), ("RED", "36893488147419103232"),
          ("UNRECOGNIZED", "-1")] ∧
      readAliases "Signal" (textLines text) = ["OFF", "STOP", "RED", "UNRECOGNIZED"] := by
  have hname : signal.declaredName = "Signal" := by decide +kernel
  have hentries : signal.entries = [("OFF", "-4"), ("STOP", "36893488147419103232"),
      ("RED", "36893488147419103232"), ("UNRECOGNIZED", "-1")] := by
    decide +kernel
  obtain ⟨text, _, hread, haliases⟩ := declaration_reads_back signal (by decide +kernel)
    (by decide +kernel) (by decide +kernel) (by decide +kernel) (by decide +kernel)
  rw [hname, hentries] at hread haliases
  exact ⟨text, hread, haliases rfl⟩

end EnumBindings.Binding
