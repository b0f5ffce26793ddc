import EnumBindings.Options.Basic
import Mathlib.Data.List.Basic

/-!
# Options that differ in some flags only

Two sets of options may agree in every field but some flags. They agree in this way exactly if they
become equal when these flags are turned off, which can be decided.
-/

namespace EnumBindings.Options

/-- Options that agree in every field but the given flags. -/
def AgreeExcept (flags : List Flag) (left right : Options) : Prop :=
  ∀ field, (∀ flag ∈ flags, field ≠ .flag flag) → left.get field = right.get field

/-- Turns flags off. -/
def reset (flags : List Flag) (options : Options) : Options :=
  flags.foldl (fun options flag => options.turn false flag) options

/-- Fields of other flags keep their value. -/
theorem get_reset_of_ne {flags : List Flag} {field : Field}
    (hfield : ∀ flag ∈ flags, field ≠ .flag flag) (options : Options) :
    (options.reset flags).get field = options.get field := by
  induction flags generalizing options with
  | nil => rfl
  | cons flag flags ih =>
    have hturn : (options.turn false flag).get field = options.get field :=
      @get_set_of_ne options (.flag flag false) field (hfield flag List.mem_cons_self)
    rw [← hturn]
    exact ih (fun other hother => hfield other (List.mem_cons_of_mem _ hother)) _

/-- Of all flags only those that stay as they are can be on. -/
theorem isOn_reset (flags : List Flag) (options : Options) (flag : Flag) :
    (options.reset flags).isOn flag = (options.isOn flag && decide (flag ∉ flags)) := by
  induction flags generalizing options with
  | nil => simp [reset]
  | cons first flags ih =>
    show ((options.turn false first).reset flags).isOn flag = _
    rw [ih, isOn_turn]
    by_cases hfirst : flag = first
    · simp [hfirst]
    · simp [hfirst]

/-- Options agree except in some flags exactly if they are equal once these are off. -/
theorem agreeExcept_iff_reset_eq {flags : List Flag} {left right : Options} :
    left.AgreeExcept flags right ↔ left.reset flags = right.reset flags := by
  constructor
  · intro hagree
    apply ext_get
    intro field
    by_cases hfield : ∀ flag ∈ flags, field ≠ .flag flag
    · rw [get_reset_of_ne hfield, get_reset_of_ne hfield, hagree field hfield]
    · obtain ⟨flag, hflag, rfl⟩ : ∃ flag ∈ flags, field = .flag flag := by simpa using hfield
      simp [get, isOn_reset, hflag]
  · intro hreset field hfield
    rw [← get_reset_of_ne hfield left, hreset, get_reset_of_ne hfield right]

instance (flags : List Flag) (left right : Options) : Decidable (left.AgreeExcept flags right) :=
  decidable_of_iff _ agreeExcept_iff_reset_eq.symm

end EnumBindings.Options
