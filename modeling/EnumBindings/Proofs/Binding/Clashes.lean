import EnumBindings.Proofs.Binding.Functions
import Mathlib.Data.List.Nodup

/-!
# Members that share a name

Taking the shared start off some names and adding a sentinel may give two members one name, which is
not checked. Given values of distinct names, this happens in two ways only. A value that keeps its
name is called as another one is without the shared start, or a value is called as the added
sentinel.
-/

namespace EnumBindings.Binding

/-- An enumeration whose first value has the shared start twice, and whose last value has the name
of the sentinel behind it. -/
def echo : Binding where
  enum :=
    { name := "Echo"
      fullName := "Echo"
      values := [{ name := "ECHO_ECHO_LOUD", number := 0 }, { name := "ECHO_LOUD", number := 1 },
        { name := "ECHO_UNRECOGNIZED", number := 2 }] }
  options := { removeEnumPrefix := true }

variable {binding : Binding} {value left right : EnumValue}

/-- Whether the shared start is taken off the name of a value. -/
def Strips (binding : Binding) (value : EnumValue) : Prop :=
  binding.options.removeEnumPrefix = true ∧
    binding.enum.sharedStart.toList <+: value.name.toList

/-- A value that keeps its name, which is that of another value without the shared start. -/
def ValuesClash (binding : Binding) : Prop :=
  binding.options.removeEnumPrefix = true ∧
    ∃ kept ∈ binding.enum.values, ∃ stripped ∈ binding.enum.values,
      ¬binding.enum.sharedStart.toList <+: kept.name.toList ∧
        stripped.name = binding.enum.sharedStart ++ kept.name

/-- A sentinel that is added, and a value that keeps the name of the sentinel or has it behind the
shared start. -/
def SentinelClashes (binding : Binding) : Prop :=
  (binding.options.sentinel = true ∧
      ∀ value ∈ binding.enum.values, value.number ≠ binding.options.sentinelCode) ∧
    ((∃ value ∈ binding.enum.values, value.name = binding.options.sentinelName ∧
        (binding.options.removeEnumPrefix = true →
          ¬binding.enum.sharedStart.toList <+: value.name.toList)) ∨
      (binding.options.removeEnumPrefix = true ∧ ∃ value ∈ binding.enum.values,
        value.name = binding.enum.sharedStart ++ binding.options.sentinelName))

/-- A value is stripped if its name is the shared start and something behind it. -/
theorem strips_of_name_eq (hremove : binding.options.removeEnumPrefix = true) {rest : String}
    (hname : value.name = binding.enum.sharedStart ++ rest) : binding.Strips value := by
  refine ⟨hremove, ?_⟩
  rw [hname, String.toList_append]
  exact List.prefix_append _ _

/-- A value that is stripped has a member of a given name if it has that name behind the shared
start. -/
theorem memberName_eq_iff_of_strips (hstrips : binding.Strips value) {name : String} :
    memberName binding.options binding.enum value = name ↔
      value.name = binding.enum.sharedStart ++ name := by
  obtain ⟨hremove, rest, hrest⟩ := hstrips
  have hname : value.name = binding.enum.sharedStart ++ String.ofList rest := by
    rw [← String.toList_inj, String.toList_append, String.toList_ofList, hrest]
  have hmember : memberName binding.options binding.enum value = String.ofList rest := by
    have hstart : binding.enum.sharedStart.toList.isPrefixOf value.name.toList = true :=
      List.isPrefixOf_iff_prefix.mpr ⟨rest, hrest⟩
    rw [memberName, if_pos hremove, Text.withoutStart, if_pos hstart, ← hrest, List.drop_left]
  rw [hmember, hname, String.append_right_inj]

/-- A value that is not stripped has a member of its own name. -/
theorem memberName_of_not_strips (hkeeps : ¬binding.Strips value) :
    memberName binding.options binding.enum value = value.name := by
  unfold memberName
  split
  · next hremove =>
    have hstart : ¬binding.enum.sharedStart.toList.isPrefixOf value.name.toList = true := fun h =>
      hkeeps ⟨hremove, List.isPrefixOf_iff_prefix.mp h⟩
    rw [Text.withoutStart, if_neg hstart, String.ofList_toList]
  · rfl

/-- Two values that are both stripped or both keep their names have members of distinct names. -/
theorem memberName_ne_of_strips_iff (hname : left.name ≠ right.name)
    (hstrips : binding.Strips left ↔ binding.Strips right) :
    memberName binding.options binding.enum left ≠
      memberName binding.options binding.enum right := by
  intro heq
  by_cases hleft : binding.Strips left
  · have hleftName := (memberName_eq_iff_of_strips hleft).mp heq
    have hrightName := (memberName_eq_iff_of_strips (hstrips.mp hleft)).mp rfl
    exact hname (hleftName.trans hrightName.symm)
  · have hright := mt hstrips.mpr hleft
    rw [memberName_of_not_strips hleft, memberName_of_not_strips hright] at heq
    exact hname heq

/-- Values clash if one of them is stripped down to the name that another one keeps. -/
theorem valuesClash_iff :
    binding.ValuesClash ↔ ∃ kept ∈ binding.enum.values, ∃ stripped ∈ binding.enum.values,
      ¬binding.Strips kept ∧ binding.Strips stripped ∧
        memberName binding.options binding.enum stripped =
          memberName binding.options binding.enum kept := by
  constructor
  · rintro ⟨hremove, kept, hkept, stripped, hstripped, hstart, hname⟩
    have hkeeps : ¬binding.Strips kept := fun h => hstart h.2
    have hstrips := strips_of_name_eq hremove hname
    refine ⟨kept, hkept, stripped, hstripped, hkeeps, hstrips, ?_⟩
    rw [memberName_of_not_strips hkeeps]
    exact (memberName_eq_iff_of_strips hstrips).mpr hname
  · rintro ⟨kept, hkept, stripped, hstripped, hkeeps, hstrips, hsame⟩
    rw [memberName_of_not_strips hkeeps] at hsame
    have hname := (memberName_eq_iff_of_strips hstrips).mp hsame
    exact ⟨hstrips.1, kept, hkept, stripped, hstripped, fun h => hkeeps ⟨hstrips.1, h⟩, hname⟩

/-- The members of the values have distinct names unless values clash. -/
theorem nodup_map_memberName_iff (hnames : (binding.enum.values.map (·.name)).Nodup) :
    (binding.enum.values.map (memberName binding.options binding.enum)).Nodup ↔
      ¬binding.ValuesClash := by
  rw [List.nodup_map_iff_inj_on (List.Nodup.of_map _ hnames), valuesClash_iff]
  constructor
  · rintro hinjective ⟨kept, hkept, stripped, hstripped, hkeeps, hstrips, hsame⟩
    exact hkeeps (hinjective stripped hstripped kept hkept hsame ▸ hstrips)
  · intro hclash left hleft right hright heq
    by_contra hne
    have hname : left.name ≠ right.name := fun h =>
      hne (List.inj_on_of_nodup_map hnames hleft hright h)
    have hdiffer : ¬(binding.Strips left ↔ binding.Strips right) := fun hstrips =>
      memberName_ne_of_strips_iff hname hstrips heq
    by_cases hstrips : binding.Strips left
    · have hkeeps : ¬binding.Strips right := fun h => hdiffer (iff_of_true hstrips h)
      exact hclash ⟨right, hright, left, hleft, hkeeps, hstrips, heq⟩
    · have hother : binding.Strips right := by_contra fun h => hdiffer (iff_of_false hstrips h)
      exact hclash ⟨left, hleft, right, hright, hstrips, hother, heq.symm⟩

/-- A value has a member of the name of the sentinel if it keeps that name or is stripped down to
it. -/
theorem sentinelName_mem_iff :
    binding.options.sentinelName ∈
        binding.enum.values.map (memberName binding.options binding.enum) ↔
      (∃ value ∈ binding.enum.values, value.name = binding.options.sentinelName ∧
        (binding.options.removeEnumPrefix = true →
          ¬binding.enum.sharedStart.toList <+: value.name.toList)) ∨
      (binding.options.removeEnumPrefix = true ∧ ∃ value ∈ binding.enum.values,
        value.name = binding.enum.sharedStart ++ binding.options.sentinelName) := by
  rw [List.mem_map]
  constructor
  · rintro ⟨value, hvalue, hname⟩
    by_cases hstrips : binding.Strips value
    · exact Or.inr ⟨hstrips.1, value, hvalue, (memberName_eq_iff_of_strips hstrips).mp hname⟩
    · rw [memberName_of_not_strips hstrips] at hname
      exact Or.inl ⟨value, hvalue, hname, fun hremove hstart => hstrips ⟨hremove, hstart⟩⟩
  · rintro (⟨value, hvalue, hname, hstart⟩ | ⟨hremove, value, hvalue, hname⟩)
    · have hkeeps : ¬binding.Strips value := fun h => hstart h.1 h.2
      exact ⟨value, hvalue, (memberName_of_not_strips hkeeps).trans hname⟩
    · have hstrips := strips_of_name_eq hremove hname
      exact ⟨value, hvalue, (memberName_eq_iff_of_strips hstrips).mpr hname⟩

/-- The declared names are those of the members of the values, and that of an added sentinel. -/
theorem map_name_declaration (binding : Binding) :
    binding.declaration.members.map (·.name) =
      binding.enum.values.map (memberName binding.options binding.enum) ++
        if binding.sentinel.isAdded binding.options then [binding.options.sentinelName]
        else [] := by
  have hmembers : binding.members.map (·.name) =
      binding.enum.values.map (memberName binding.options binding.enum) := by
    simp [members, EnumBindings.members, Function.comp_def]
  show binding.declaredMembers.map (·.name) = _
  rw [names_declaredMembers, allMembers, List.map_append, hmembers]
  split <;> rfl

/-- The declared members have distinct names unless values clash with each other or one of them with
the sentinel, if the values have distinct names. -/
theorem nodup_declaration_iff (binding : Binding)
    (hnames : (binding.enum.values.map (·.name)).Nodup) :
    ((binding.declaration.members.map (·.name)).Nodup ↔
        ¬binding.ValuesClash ∧ ¬binding.SentinelClashes) ∧
      ∀ left ∈ binding.enum.values, ∀ right ∈ binding.enum.values, left.name ≠ right.name →
        (binding.Strips left ↔ binding.Strips right) →
          memberName binding.options binding.enum left ≠
            memberName binding.options binding.enum right := by
  refine ⟨?_, fun left _ right _ hname hstrips => memberName_ne_of_strips_iff hname hstrips⟩
  rw [map_name_declaration, SentinelClashes, ← sentinelName_mem_iff, ← isAdded_iff_forall_values,
    ← nodup_map_memberName_iff hnames]
  split
  · next hadded =>
    rw [List.nodup_append]
    simp [hadded]
  · next hadded => simp [hadded]

/-- The first two values differ, although the name of one of them has the shared start twice. The
third has the name of the sentinel behind the shared start. -/
theorem nodup_declaration_iff_echo :
    ¬(echo.declaration.members.map (·.name)).Nodup ∧
      memberName echo.options echo.enum { name := "ECHO_ECHO_LOUD", number := 0 } ≠
        memberName echo.options echo.enum { name := "ECHO_LOUD", number := 1 } := by
  obtain ⟨hiff, hdistinct⟩ := nodup_declaration_iff echo (by decide)
  have hclash : echo.SentinelClashes :=
    ⟨⟨rfl, by decide⟩, Or.inr ⟨rfl, { name := "ECHO_UNRECOGNIZED", number := 2 }, by decide,
      by decide +kernel⟩⟩
  refine ⟨fun hnodup => (hiff.mp hnodup).2 hclash, ?_⟩
  refine hdistinct _ (by decide) _ (by decide) (by decide) (iff_of_true ⟨rfl, ?_⟩ ⟨rfl, ?_⟩)
  · exact List.isPrefixOf_iff_prefix.mp (by decide +kernel)
  · exact List.isPrefixOf_iff_prefix.mp (by decide +kernel)

end EnumBindings.Binding
