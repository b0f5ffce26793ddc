import EnumBindings.Text.Numeral

/-!
# Limits of a run

A run may be limited in two ways. While a document is read, only so many lists and objects may be
open at a time; and a number may be written only if it has no more digits than a number that is
read. Without limits nothing is refused for its size alone.
-/

namespace EnumBindings

/-- What a run allows. -/
structure Limits where
  /-- How many lists and objects may be open at a time, if that is limited. -/
  nesting : Option Nat := none
  /-- Whether numbers of any length are written. -/
  longNumbers : Bool := true
  deriving DecidableEq, Repr

namespace Limits

/-- The limits of an ordinary run, in which some room is left for nesting. -/
def ordinary (nesting : Nat) : Limits := ⟨some nesting, false⟩

/-- Whether so many lists and objects may be open. -/
def allowsDepth (limits : Limits) (depth : Nat) : Bool :=
  limits.nesting.all fun nesting => decide (depth ≤ nesting)

/-- Whether a number may be written. -/
def allowsNumber (limits : Limits) (number : Int) : Bool :=
  limits.longNumbers || decide ((Nat.toDigits 10 number.natAbs).length ≤ Text.digitLimit)

@[simp] theorem allowsDepth_unlimited (depth : Nat) : ({} : Limits).allowsDepth depth = true :=
  rfl

@[simp] theorem allowsNumber_unlimited (number : Int) : ({} : Limits).allowsNumber number = true :=
  rfl

@[simp] theorem allowsDepth_ordinary (nesting depth : Nat) :
    (ordinary nesting).allowsDepth depth = decide (depth ≤ nesting) :=
  rfl

@[simp] theorem allowsNumber_ordinary (nesting : Nat) (number : Int) :
    (ordinary nesting).allowsNumber number =
      decide ((Nat.toDigits 10 number.natAbs).length ≤ Text.digitLimit) :=
  rfl

/-- Only a limited run has too much nesting. -/
theorem exists_nesting_of_allowsDepth {limits : Limits} {depth : Nat}
    (hdepth : limits.allowsDepth depth = false) :
    ∃ nesting, limits.nesting = some nesting ∧ nesting < depth := by
  unfold allowsDepth at hdepth
  cases hnesting : limits.nesting with
  | none => rw [hnesting] at hdepth; cases hdepth
  | some nesting =>
    rw [hnesting] at hdepth
    exact ⟨nesting, rfl, Nat.not_le.mp (of_decide_eq_false hdepth)⟩

/-- What an ordinary run may write every run may. -/
theorem allowsNumber_of_ordinary {nesting : Nat} {number : Int}
    (hnumber : (ordinary nesting).allowsNumber number = true) (limits : Limits) :
    limits.allowsNumber number = true := by
  rw [allowsNumber_ordinary] at hnumber
  rw [allowsNumber, hnumber, Bool.or_true]

end Limits

end EnumBindings
