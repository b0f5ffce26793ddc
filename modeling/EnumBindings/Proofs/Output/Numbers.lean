import EnumBindings.Proofs.Binding.WellNamed
import EnumBindings.Proofs.Output.Writing

/-!
# The numbers of a binding

Whatever number stands in the code of a binding is the code of a value or that of the sentinel. So
the binding can be written if these codes can, and whether it can be written does not depend on the
helpers, the names or the comments.
-/

namespace EnumBindings

open Script

namespace Binding

variable {binding : Binding} {limits : Limits} {number : Int}

/-- The codes of a binding: that of the sentinel and those of the values. -/
def codes (binding : Binding) : List Int :=
  binding.options.sentinelCode :: binding.enum.values.map (·.number)

theorem sentinelCode_mem_codes (binding : Binding) : binding.options.sentinelCode ∈ binding.codes :=
  List.mem_cons_self

theorem code_mem_codes {member : Member} (hmember : member ∈ binding.members) :
    member.code ∈ binding.codes := by
  obtain ⟨value, hvalue, rfl⟩ := List.mem_map.mp hmember
  exact List.mem_cons_of_mem _ (List.mem_map_of_mem hvalue)

/-- The number in what a member holds is its code. -/
theorem eq_of_mem_numbers_heldValue {options : Options} {wireName : String} {code : Int}
    (hnumber : number ∈ (heldValue options wireName code).numbers) : number = code := by
  unfold heldValue at hnumber
  split at hnumber
  · cases hnumber
  · exact List.mem_singleton.mp hnumber

/-- The number in what a value is in JSON is its code. -/
theorem eq_of_mem_numbers_jsonValue {options : Options} {wireName : String} {code : Int}
    (hnumber : number ∈ (jsonValue options wireName code).numbers) : number = code := by
  unfold jsonValue at hnumber
  split at hnumber
  · exact List.mem_singleton.mp hnumber
  · cases hnumber

/-- The numbers of a declaration are codes. -/
theorem mem_codes_of_mem_declaration (hnumber : number ∈ binding.declarationFragment.numbers) :
    number ∈ binding.codes := by
  rcases List.mem_append.mp hnumber with hreported | hwritten
  · unfold reportedCode? at hreported
    split at hreported
    · rw [List.mem_singleton.mp hreported]
      exact binding.sentinelCode_mem_codes
    · cases hreported
  · obtain ⟨declared, hdeclared, hheld⟩ := List.mem_flatMap.mp hwritten
    rcases exists_member_or_eq_declareSentinel hdeclared with ⟨member, hmember, rfl⟩ | ⟨_, rfl⟩
    · rw [eq_of_mem_numbers_heldValue hheld]
      exact code_mem_codes hmember
    · rw [eq_of_mem_numbers_heldValue hheld]
      exact binding.sentinelCode_mem_codes

/-- The numbers of a conversion are codes if those of each arm are. -/
theorem mem_codes_of_mem_arms {arm : Member → Arm} {rest : Arm}
    (harm : ∀ member ∈ binding.members, ∀ number ∈ (arm member).numbers, number ∈ binding.codes)
    (hrest : ∀ number ∈ rest.numbers, number ∈ binding.codes)
    (hnumber : number ∈ (binding.members.map arm ++ [rest]).flatMap Arm.numbers) :
    number ∈ binding.codes := by
  obtain ⟨found, hfound, hnumber⟩ := List.mem_flatMap.mp hnumber
  rcases List.mem_append.mp hfound with hfound | hfound
  · obtain ⟨member, hmember, rfl⟩ := List.mem_map.mp hfound
    exact harm member hmember number hnumber
  · rw [List.mem_singleton.mp hfound] at hnumber
    exact hrest number hnumber

/-- The numbers of a conversion are codes. -/
theorem mem_codes_of_mem_conversion {conversion : Conversion}
    (hconversion : conversion ∈ binding.conversions) (hnumber : number ∈ conversion.numbers) :
    number ∈ binding.codes := by
  rcases eq_of_mem_conversions hconversion with rfl | rfl | rfl
  · refine mem_codes_of_mem_arms (fun member hmember number hnumber => ?_)
      (fun number hnumber => ?_) hnumber
    · rw [List.mem_singleton.mp hnumber]
      exact code_mem_codes hmember
    · unfold fromJsonRest refusal at hnumber
      simp only at hnumber
      split at hnumber
      · split at hnumber
        · rw [List.mem_singleton.mp hnumber]
          exact binding.sentinelCode_mem_codes
        · cases hnumber
      · cases hnumber
  · refine mem_codes_of_mem_arms (fun member hmember number hnumber => ?_)
      (fun number hnumber => ?_) hnumber
    · rw [eq_of_mem_numbers_jsonValue hnumber]
      exact code_mem_codes hmember
    · unfold toJsonRest refusal at hnumber
      simp only at hnumber
      split at hnumber
      · split at hnumber <;> rw [eq_of_mem_numbers_jsonValue hnumber] <;>
          exact binding.sentinelCode_mem_codes
      · cases hnumber
  · refine mem_codes_of_mem_arms (fun member hmember number hnumber => ?_)
      (fun number hnumber => ?_) hnumber
    · rw [List.mem_singleton.mp hnumber]
      exact code_mem_codes hmember
    · have hsentinel : number = binding.options.sentinelCode := by
        unfold toNumberRest Arm.numbers at hnumber
        simp only at hnumber
        split at hnumber <;> exact List.mem_singleton.mp hnumber
      rw [hsentinel]
      exact binding.sentinelCode_mem_codes

/-- A binding can be written if all its codes can. -/
theorem fits_of_codes (hcodes : ∀ code ∈ binding.codes, limits.allowsNumber code = true) :
    binding.fits limits = true := by
  rw [fits, List.all_eq_true]
  intro fragment hfragment
  rw [Fragment.fits, List.all_eq_true]
  intro number hnumber
  rcases List.mem_cons.mp hfragment with rfl | hfragment
  · exact hcodes number (mem_codes_of_mem_declaration hnumber)
  · obtain ⟨conversion, hconversion, rfl⟩ := List.mem_map.mp hfragment
    exact hcodes number (mem_codes_of_mem_conversion hconversion hnumber)

/-- Where the values are codes, a declaration does not fit if one of them is too long. -/
theorem declarationFragment_fits_eq_false {value : EnumValue} (hvalue : value ∈ binding.enum.values)
    (hcodes : binding.options.stringEnums = false)
    (hlong : limits.allowsNumber value.number = false) :
    binding.declarationFragment.fits limits = false := by
  refine Fragment.fits_eq_false (List.mem_append_right _ ?_) hlong
  refine List.mem_flatMap.mpr ⟨_, List.mem_append_left _ (List.mem_map_of_mem
    (List.mem_map_of_mem hvalue)), ?_⟩
  show value.number ∈ (heldValue binding.options _ value.number).numbers
  rw [heldValue, hcodes]
  exact List.mem_singleton_self _

/-- The conversion from JSON does not fit if a code is too long. -/
theorem fromJson_fits_eq_false {value : EnumValue} (hvalue : value ∈ binding.enum.values)
    (hlong : limits.allowsNumber value.number = false) (sentinel : Sentinel) :
    (binding.fromJson sentinel).fragment.fits limits = false := by
  have hnumber : value.number ∈ (binding.fromJson sentinel).fragment.numbers :=
    List.mem_flatMap.mpr ⟨_, List.mem_append_left _ (List.mem_map_of_mem
      (List.mem_map_of_mem hvalue)), List.mem_singleton_self _⟩
  exact Fragment.fits_eq_false hnumber hlong

end Binding

/-- The least number with more digits than an ordinary run writes. -/
@[irreducible] def longNumber : Int :=
  Int.ofNat (10 ^ Text.digitLimit)

theorem allowsNumber_longNumber (nesting : Nat) :
    (Limits.ordinary nesting).allowsNumber longNumber = false := by
  rw [Bool.eq_false_iff, Ne, Text.allowsNumber_ordinary_iff, longNumber]
  exact Nat.lt_irrefl _

/-- An enumeration with a value whose code is too long. -/
def farAway : EnumDescriptor where
  name := "Far"
  fullName := "Far"
  values := [{ name := "AWAY", number := longNumber }]

/-- An enumeration that can be written under options: it has a full name, and none of its numbers is
too long. -/
structure EnumDescriptor.Writable (enum : EnumDescriptor) (options : Options) (limits : Limits) :
    Prop where
  fullName : enum.fullName ≠ ""
  fits : (Binding.mk enum options).fits limits = true

/-- Without limits a full name is enough. -/
theorem EnumDescriptor.writable_unlimited {enum : EnumDescriptor} (hname : enum.fullName ≠ "")
    (options : Options) : enum.Writable options {} :=
  ⟨hname, Binding.fits_unlimited _⟩

/-- It is enough that its codes and that of the sentinel are not too long. -/
theorem EnumDescriptor.writable_of_codes {enum : EnumDescriptor} {options : Options}
    {limits : Limits} (hname : enum.fullName ≠ "")
    (hvalues : ∀ value ∈ enum.values, limits.allowsNumber value.number = true)
    (hsentinel : limits.allowsNumber options.sentinelCode = true) :
    enum.Writable options limits := by
  refine ⟨hname, Binding.fits_of_codes ?_⟩
  intro code hcode
  rcases List.mem_cons.mp hcode with rfl | hcode
  · exact hsentinel
  · obtain ⟨value, hvalue, rfl⟩ := List.mem_map.mp hcode
    exact hvalues value hvalue

end EnumBindings
