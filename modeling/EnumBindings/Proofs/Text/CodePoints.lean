import EnumBindings.Text.CodePoints

/-!
# Ranges that are apart

A code point of some ranges is in none of other ranges, if no two of them overlap.
-/

namespace EnumBindings.Text

variable {code : Nat} {ranges others : List (Nat × Nat)}

/-- A code point in some ranges lies within one of them. -/
theorem exists_range_of_inRanges (hcode : inRanges code ranges = true) :
    ∃ range ∈ ranges, range.1 ≤ code ∧ code ≤ range.2 := by
  induction ranges with
  | nil => cases hcode
  | cons range ranges ih =>
    rw [inRanges, Bool.and_eq_true, decide_eq_true_eq, Bool.or_eq_true, decide_eq_true_eq] at hcode
    rcases hcode with ⟨hlow, hhigh | hrest⟩
    · exact ⟨range, List.mem_cons_self, hlow, hhigh⟩
    · obtain ⟨other, hother, hbounds⟩ := ih hrest
      exact ⟨other, List.mem_cons_of_mem _ hother, hbounds⟩

/-- Ranges of which each ends before the other begins. -/
def Apart (ranges others : List (Nat × Nat)) : Prop :=
  ∀ range ∈ ranges, ∀ other ∈ others, range.2 < other.1 ∨ other.2 < range.1

instance (ranges others : List (Nat × Nat)) : Decidable (Apart ranges others) :=
  inferInstanceAs (Decidable (∀ range ∈ ranges, ∀ other ∈ others, _))

/-- A code point of some ranges is not in others that are apart from them. -/
theorem inRanges_eq_false_of_apart (hapart : Apart ranges others)
    (hcode : inRanges code ranges = true) : inRanges code others = false := by
  obtain ⟨range, hrange, hlow, hhigh⟩ := exists_range_of_inRanges hcode
  rw [Bool.eq_false_iff]
  intro hothers
  obtain ⟨other, hother, hlow', hhigh'⟩ := exists_range_of_inRanges hothers
  have hbetween := hapart range hrange other hother
  omega

end EnumBindings.Text
