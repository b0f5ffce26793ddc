import EnumBindings.Json.Value
import Mathlib.Algebra.Order.Field.Power
import Mathlib.Data.Rat.Defs
import Mathlib.Tactic.NormNum
import Mathlib.Tactic.Positivity

/-!
# Values that are set

Which values of a document count as set, said without the function that decides it. All of them do
but null, false, zero and what is empty. A decimal is zero by its value as a rational number,
however it is written.
-/

namespace EnumBindings

variable {value : Json}

/-- The values that do not count as set: null, false, zero and what is empty. A decimal is zero if
it is at most half of the least positive double. -/
inductive Json.Unset : Json → Prop
  | null : Unset .null
  | no : Unset (.bool false)
  | zero : Unset (.int 0)
  | vanishing {negative : Bool} {digits : Nat} {exponent : Int} :
      (digits : ℚ) * 10 ^ exponent ≤ 1 / 2 ^ 1075 →
      Unset (.decimal (.finite negative digits exponent))
  | emptyText : Unset (.text "")
  | emptyList : Unset (.list [])
  | emptyObject : Unset (.object [])

/-- Looking only so many places beyond the digits of a number is enough to tell whether it vanishes,
for a bound with no more places. -/
theorem mul_le_pow_min_iff (digits places : Nat) {bound extra : Nat} (hbound : bound ≤ 10 ^ extra) :
    digits * bound ≤ 10 ^ min places ((Nat.toDigits 10 digits).length + extra) ↔
      digits * bound ≤ 10 ^ places := by
  have hpositive : 0 < (Nat.toDigits 10 digits).length := Nat.length_toDigits_pos
  have hdigits : digits < 10 ^ (Nat.toDigits 10 digits).length :=
    (Nat.length_toDigits_le_iff (by omega) hpositive).mp le_rfl
  have hvanishes : digits * bound ≤ 10 ^ ((Nat.toDigits 10 digits).length + extra) := by
    rw [Nat.pow_add]
    exact Nat.mul_le_mul hdigits.le hbound
  rcases Nat.le_total places ((Nat.toDigits 10 digits).length + extra) with hle | hle
  · rw [Nat.min_eq_left hle]
  · rw [Nat.min_eq_right hle]
    exact iff_of_true hvanishes (hvanishes.trans (Nat.pow_le_pow_right (by omega) hle))

/-- A decimal is compared with the reciprocal of a bound in natural numbers. -/
theorem mul_zpow_le_one_div_iff (digits : Nat) (exponent : Int) {bound : Nat} (hbound : 1 < bound) :
    (digits : ℚ) * 10 ^ exponent ≤ 1 / bound ↔ digits * bound ≤ 10 ^ (-exponent).toNat := by
  have hpositive : (0 : ℚ) < bound := by exact_mod_cast Nat.zero_lt_of_lt hbound
  rw [le_div_iff₀ hpositive, mul_right_comm]
  rcases Int.le_total 0 exponent with hexponent | hexponent
  · -- Without a fraction only the number zero is small enough.
    obtain ⟨places, rfl⟩ := Int.eq_ofNat_of_zero_le hexponent
    have hten : 1 ≤ 10 ^ places := Nat.one_le_pow _ _ (by omega)
    rw [Int.toNat_of_nonpos (by omega), zpow_natCast, pow_zero]
    constructor
    · intro hle
      have hle' : digits * bound * 10 ^ places ≤ 1 := by exact_mod_cast hle
      exact (Nat.le_mul_of_pos_right _ hten).trans hle'
    · intro hle
      have hdigits : digits = 0 := by
        by_contra hne
        have hlarge := Nat.le_mul_of_pos_left bound (Nat.pos_of_ne_zero hne)
        omega
      simp [hdigits]
  · obtain ⟨places, hplaces⟩ : ∃ places : Nat, exponent = -(places : Int) :=
      ⟨(-exponent).toNat, by omega⟩
    subst hplaces
    rw [Int.neg_neg, Int.toNat_natCast, zpow_neg, zpow_natCast, mul_inv_le_iff₀ (by positivity),
      one_mul]
    exact_mod_cast Iff.rfl

/-- Thirteen decimal places are worth more than 43 binary ones. -/
theorem two_pow_le_ten_pow (n : Nat) {power places : Nat} (hpower : power ≤ 43 * n)
    (hplaces : 13 * n ≤ places) : 2 ^ power ≤ 10 ^ places :=
  calc 2 ^ power ≤ 2 ^ (43 * n) := Nat.pow_le_pow_right (by decide) hpower
    _ = (2 ^ 43) ^ n := Nat.pow_mul 2 43 n
    _ ≤ (10 ^ 13) ^ n := Nat.pow_le_pow_left (by norm_num) n
    _ = 10 ^ (13 * n) := (Nat.pow_mul 10 13 n).symm
    _ ≤ 10 ^ places := Nat.pow_le_pow_right (by decide) hplaces

/-- The bound on the places that are looked at makes no difference, whichever the power of two
is. -/
theorem decide_mul_pow_iff (digits : Nat) (exponent : Int) {power : Nat} (hpositive : power ≠ 0)
    (hpower : 2 ^ power ≤ 10 ^ 330) :
    decide (digits * Nat.pow 2 power ≤
        Nat.pow 10 (min (-exponent).toNat ((Nat.toDigits 10 digits).length + 330))) = true ↔
      (digits : ℚ) * 10 ^ exponent ≤ 1 / 2 ^ power := by
  have hgreater : 1 < 2 ^ power := Nat.one_lt_two_pow hpositive
  rw [decide_eq_true_iff, Nat.pow_eq, Nat.pow_eq, mul_le_pow_min_iff digits _ hpower,
    ← mul_zpow_le_one_div_iff digits exponent hgreater, Nat.cast_pow, Nat.cast_ofNat]

/-- A decimal is zero exactly if it lies as near to zero as half of the least positive double. -/
theorem Decimal.isZero_finite_iff {negative : Bool} {digits : Nat} {exponent : Int} :
    (Decimal.finite negative digits exponent).isZero = true ↔
      (digits : ℚ) * 10 ^ exponent ≤ 1 / 2 ^ 1075 := by
  have hpositive : 1075 ≠ 0 := by decide
  have hpower := @two_pow_le_ten_pow 25 1075 330 (by decide) (by decide)
  unfold Decimal.isZero
  -- Under a name the power is not evaluated.
  generalize 1075 = power at hpositive hpower ⊢
  exact decide_mul_pow_iff digits exponent hpositive hpower

/-- A value counts as set unless it is one of those that do not. -/
theorem Json.isSet_eq_true_iff : value.isSet = true ↔ ¬ value.Unset := by
  have hunset : value.isSet = false ↔ value.Unset := by
    constructor
    · intro hset
      cases value with
      | null => exact .null
      | bool flag => obtain rfl : flag = false := hset; exact .no
      | int number =>
        obtain rfl : number = 0 := by simpa [Json.isSet] using hset
        exact .zero
      | decimal number =>
        have hzero : number.isZero = true := by simpa [Json.isSet] using hset
        cases number with
        | finite negative digits exponent =>
          exact .vanishing (Decimal.isZero_finite_iff.mp hzero)
        | infinite negative => cases hzero
        | undefined => cases hzero
      | text content =>
        obtain rfl : content = "" := by simpa [Json.isSet] using hset
        exact .emptyText
      | list items =>
        obtain rfl : items = [] := by simpa [Json.isSet] using hset
        exact .emptyList
      | object fields =>
        obtain rfl : fields = [] := by simpa [Json.isSet] using hset
        exact .emptyObject
    · intro hunset
      cases hunset with
      | vanishing hsmall => simp [Json.isSet, Decimal.isZero_finite_iff.mpr hsmall]
      | _ => rfl
  rw [← hunset, Bool.not_eq_false]

end EnumBindings
