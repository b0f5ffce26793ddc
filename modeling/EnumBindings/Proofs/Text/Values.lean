import EnumBindings.Limits
import EnumBindings.Proofs.Text.CodePoints
import EnumBindings.Text.Blank
import EnumBindings.Text.Identifier
import EnumBindings.Text.Numeral
import Mathlib.Algebra.Group.Nat.Defs
import Mathlib.Data.List.Induction

/-!
# Integers and identifiers as texts

The decimal spelling of an integer is read as that integer, whatever its sign, if it has no more
digits than are read, and whatever is read has no more. The characters of identifiers are visible.
-/

namespace EnumBindings.Text

/-- A natural number is spelled by its digits. -/
theorem toList_toString_ofNat (number : Nat) :
    (toString (Int.ofNat number)).toList = Nat.toDigits 10 number :=
  Nat.toList_repr

/-- A negative number is spelled by the digits of its absolute value behind a minus. -/
theorem toList_toString_negSucc (number : Nat) :
    (toString (Int.negSucc number)).toList = '-' :: Nat.toDigits 10 (number + 1) := by
  show ("-" ++ Nat.repr (number + 1)).toList = _
  rw [String.toList_append, Nat.toList_repr]
  rfl

/-- The spelling of an integer has no other characters than digits and a minus. -/
theorem eq_minus_or_isDigit_of_mem_toString {value : Int} {c : Char}
    (hc : c ∈ (toString value).toList) : c = '-' ∨ c.isDigit = true := by
  cases value with
  | ofNat number =>
    rw [toList_toString_ofNat] at hc
    exact Or.inr (Nat.isDigit_of_mem_toDigits (by decide) (by decide) hc)
  | negSucc number =>
    rw [toList_toString_negSucc, List.mem_cons] at hc
    exact hc.imp_right fun hc => Nat.isDigit_of_mem_toDigits (by decide) (by decide) hc

/-- A decimal digit of the usual script has its place behind the zero as its value. -/
theorem digitValue?_of_isDigit {c : Char} (hc : c.isDigit = true) :
    digitValue? c = some (c.toNat - 48) := by
  have hrange : 48 ≤ c.toNat ∧ c.toNat ≤ 57 := Char.isDigit_iff_toNat.mp hc
  rw [digitValue?, zeros, List.findSome?_cons, if_pos (by omega)]

/-- Digits without underscores are read one by one. -/
theorem groupedDigits?_of_isDigit {text : List Char} (htext : text ≠ [])
    (hdigits : ∀ c ∈ text, c.isDigit = true) :
    groupedDigits? text = some (text.map fun c => c.toNat - 48) := by
  fun_induction groupedDigits? text with
  | case1 => exact absurd rfl htext
  | case2 c => rw [digitValue?_of_isDigit (hdigits c List.mem_cons_self)]; rfl
  | case3 c text ih =>
    have hunderscore := hdigits '_' (by simp)
    exact absurd hunderscore (by decide)
  | case4 c text hnil hunderscore ih =>
    rw [List.forall_mem_cons] at hdigits
    rw [digitValue?_of_isDigit hdigits.1, ih (fun h => hnil h) hdigits.2]
    rfl

/-- The digits of a number are read as that number, if there are not too many of them. -/
theorem natural?_toDigits {number : Nat}
    (hlimit : (Nat.toDigits 10 number).length ≤ digitLimit) :
    natural? (Nat.toDigits 10 number) = some number := by
  have hdigits : ∀ c ∈ Nat.toDigits 10 number, c.isDigit = true := fun c hc =>
    Nat.isDigit_of_mem_toDigits (by decide) (by decide) hc
  have hvalue : ofDigits ((Nat.toDigits 10 number).map fun c => c.toNat - 48) = number := by
    rw [ofDigits, List.foldl_map]
    exact Nat.ofDigitChars_ten_toDigits
  rw [natural?, groupedDigits?_of_isDigit Nat.toDigits_ne_nil hdigits]
  show (if _ then _ else _) = _
  rw [List.length_map, if_pos hlimit, hvalue]

/-- The decimal spelling of an integer is read as that integer, if it is not too long. -/
theorem integer?_toString {value : Int}
    (hlimit : (Nat.toDigits 10 value.natAbs).length ≤ digitLimit) :
    integer? (toString value).toList = some value := by
  cases value with
  | ofNat number =>
    have hnatural : natural? (Nat.toDigits 10 number) = some number := natural?_toDigits hlimit
    have hsign (sign : Char) (hsign : sign.isDigit = false) : sign ∉ Nat.toDigits 10 number := by
      intro hmem
      rw [Nat.isDigit_of_mem_toDigits (by decide) (by decide) hmem] at hsign
      cases hsign
    rw [toList_toString_ofNat]
    unfold integer?
    split
    · next heq => exact absurd (heq ▸ List.mem_cons_self) (hsign '-' (by decide))
    · next heq => exact absurd (heq ▸ List.mem_cons_self) (hsign '+' (by decide))
    · rw [hnatural]
      rfl
  | negSucc number =>
    have hnatural : natural? (Nat.toDigits 10 (number + 1)) = some (number + 1) :=
      natural?_toDigits hlimit
    rw [toList_toString_negSucc, integer?, hnatural]
    rfl

/-- So many digits make a number below that power of ten. -/
theorem ofDigits_lt {digits : List Nat} (hdigits : ∀ digit ∈ digits, digit < 10) :
    ofDigits digits < 10 ^ digits.length := by
  induction digits using List.reverseRecOn with
  | nil => exact Nat.one_pos
  | append_singleton digits digit ih =>
    have hfirst := ih fun other hother => hdigits other (List.mem_append_left _ hother)
    have hlast := hdigits digit (List.mem_append_right _ List.mem_cons_self)
    rw [ofDigits, List.foldl_append, List.length_append, List.length_singleton, Nat.pow_succ]
    show 10 * ofDigits digits + digit < _
    omega

/-- The value of a digit is a single digit. -/
theorem lt_ten_of_digitValue? {c : Char} {digit : Nat} (hdigit : digitValue? c = some digit) :
    digit < 10 := by
  obtain ⟨first, _, hfirst⟩ := List.exists_of_findSome?_eq_some hdigit
  obtain ⟨hrange, hvalue⟩ := Option.ite_none_right_eq_some.mp hfirst
  have hdigit := Option.some.inj hvalue
  omega

/-- Grouped digits are single digits. -/
theorem lt_ten_of_groupedDigits? {text : List Char} {digits : List Nat}
    (htext : groupedDigits? text = some digits) : ∀ digit ∈ digits, digit < 10 := by
  have hcons {c : Char} {text : List Char} {digits : List Nat}
      (ih : ∀ {digits}, groupedDigits? text = some digits → ∀ digit ∈ digits, digit < 10)
      (htext : (do return (← digitValue? c) :: (← groupedDigits? text)) = some digits) :
      ∀ digit ∈ digits, digit < 10 := by
    obtain ⟨first, hfirst, hrest⟩ := Option.bind_eq_some_iff.mp htext
    obtain ⟨rest, hrest, hdigits⟩ := Option.bind_eq_some_iff.mp hrest
    rw [← Option.some.inj hdigits, List.forall_mem_cons]
    exact ⟨lt_ten_of_digitValue? hfirst, ih hrest⟩
  fun_induction groupedDigits? text generalizing digits with
  | case1 => cases htext
  | case2 c =>
    obtain ⟨digit, hdigit, rfl⟩ := Option.map_eq_some_iff.mp htext
    exact List.forall_mem_singleton.mpr (lt_ten_of_digitValue? hdigit)
  | case3 c text ih => exact hcons ih htext
  | case4 c text hnil hunderscore ih => exact hcons ih htext

/-- What is read has no more digits than are read. -/
theorem natAbs_lt_of_integer? {text : List Char} {value : Int}
    (hvalue : integer? text = some value) : value.natAbs < 10 ^ digitLimit := by
  have hnatural {text : List Char} {number : Nat} (hnumber : natural? text = some number) :
      number < 10 ^ digitLimit := by
    obtain ⟨digits, hdigits, hlimit⟩ := Option.bind_eq_some_iff.mp hnumber
    obtain ⟨hlimit, hsum⟩ := Option.ite_none_right_eq_some.mp hlimit
    rw [← Option.some.inj hsum]
    exact Nat.lt_of_lt_of_le (ofDigits_lt (lt_ten_of_groupedDigits? hdigits))
      (Nat.pow_le_pow_right (by decide) hlimit)
  unfold integer? at hvalue
  split at hvalue <;> obtain ⟨number, hnumber, rfl⟩ := Option.map_eq_some_iff.mp hvalue
  · obtain ⟨digits, hdigits, hsame⟩ := Option.bind_eq_some_iff.mp hnumber
    rw [← Option.some.inj hsame, Int.natAbs_neg]
    exact hnatural hdigits
  · exact hnatural hnumber
  · exact hnatural hnumber

/-- In an ordinary run the numbers that may be written are those below a power of ten. -/
theorem allowsNumber_ordinary_iff {nesting : Nat} {number : Int} :
    (Limits.ordinary nesting).allowsNumber number = true ↔ number.natAbs < 10 ^ digitLimit := by
  rw [Limits.allowsNumber_ordinary, decide_eq_true_iff]
  exact Nat.length_toDigits_le_iff (by decide) (by decide)

/-- Digits are visible. -/
theorem isBlank_of_isDigit {c : Char} (hc : c.isDigit = true) : isBlank c = false := by
  have hrange : 48 ≤ c.toNat ∧ c.toNat ≤ 57 := Char.isDigit_iff_toNat.mp hc
  have hdigit : inRanges c.toNat [(48, 57)] = true := by
    simpa [inRanges] using hrange
  exact inRanges_eq_false_of_apart (by decide) hdigit

/-- Characters of identifiers are visible. -/
theorem isBlank_of_isIdentifierPart {c : Char} (hc : isIdentifierPart c = true) :
    isBlank c = false := by
  rcases Bool.or_eq_true_iff.mp hc with hstart | hrest
  · exact inRanges_eq_false_of_apart (by decide +kernel) hstart
  · exact inRanges_eq_false_of_apart (by decide +kernel) hrest

end EnumBindings.Text
