import EnumBindings.Text.Lines
import Mathlib.Data.List.TakeWhile

/-!
# The first line of a text

What depends on the first line of a text only does not depend on how its lines end. A text with
unified line breaks has the first line that it had, and behind a part of that line the line breaks
of what is left are unified.
-/

namespace EnumBindings.Text

/-- A line feed or a carriage return. -/
def isReturn (c : Char) : Bool :=
  c = '\n' || c = '\r'

/-- A text up to its first line feed or carriage return. -/
def firstLine (text : List Char) : List Char :=
  text.takeWhile fun c => !isReturn c

variable {c : Char} {part text rest : List Char} {n : Nat} {p : Char → Bool}

theorem isReturn_eq_true_iff : isReturn c = true ↔ c = '\n' ∨ c = '\r' := by
  simp [isReturn]

theorem isReturn_eq_false_iff : isReturn c = false ↔ c ≠ '\n' ∧ c ≠ '\r' := by
  simp [isReturn]

/-! ## Parts of the first line -/

theorem firstLine_cons (hc : isReturn c = false) : firstLine (c :: text) = c :: firstLine text :=
  List.takeWhile_cons_of_pos (by rw [hc]; rfl)

theorem firstLine_cons_of_isReturn (hc : isReturn c = true) : firstLine (c :: text) = [] :=
  List.takeWhile_cons_of_neg (by rw [hc]; decide)

theorem firstLine_append (hpart : ∀ c ∈ part, isReturn c = false) :
    firstLine (part ++ text) = part ++ firstLine text :=
  List.takeWhile_append_of_pos fun c hc => by rw [hpart c hc]; rfl

/-- A start of a text without line breaks is a start of its first line. -/
theorem prefix_firstLine (hpart : ∀ c ∈ part, isReturn c = false) (hstart : part <+: text) :
    part <+: firstLine text := by
  obtain ⟨rest, rfl⟩ := hstart
  rw [firstLine_append hpart]
  exact List.prefix_append _ _

/-- Behind a part of the first line stands the rest of it. -/
theorem drop_firstLine (hn : n ≤ (firstLine text).length) :
    (firstLine text).drop n = firstLine (text.drop n) := by
  induction text generalizing n with
  | nil => rw [firstLine, List.takeWhile_nil, List.drop_nil]; rfl
  | cons c text ih =>
    cases n with
    | zero => rfl
    | succ n =>
      by_cases hc : isReturn c = true
      · rw [firstLine_cons_of_isReturn hc] at hn
        cases hn
      · rw [firstLine_cons (by simpa using hc)] at hn ⊢
        exact ih (Nat.le_of_succ_le_succ hn)

/-- Characters that do not end a line are found in the first line. -/
theorem takeWhile_firstLine (hp : ∀ c, p c = true → isReturn c = false) :
    (firstLine text).takeWhile p = text.takeWhile p := by
  induction text with
  | nil => rfl
  | cons c text ih =>
    by_cases hc : isReturn c = true
    · have hnot : ¬p c = true := fun h => by
        rw [hp c h] at hc
        cases hc
      rw [firstLine_cons_of_isReturn hc, List.takeWhile_cons_of_neg hnot]
      rfl
    · rw [firstLine_cons (by simpa using hc), List.takeWhile_cons, List.takeWhile_cons, ih]

/-- A character that does not end a line is in front of the first line if it is in front. -/
theorem head?_firstLine_eq_iff (hc : isReturn c = false) :
    (firstLine text).head? = some c ↔ text.head? = some c := by
  cases text with
  | nil => rfl
  | cons d text =>
    by_cases hd : isReturn d = true
    · rw [firstLine_cons_of_isReturn hd]
      refine ⟨nofun, fun h => ?_⟩
      obtain rfl : d = c := Option.some.inj h
      rw [hd] at hc
      cases hc
    · rw [firstLine_cons (by simpa using hd)]
      rfl

/-- Behind a character of the first line stands the rest of it. -/
theorem tail_firstLine (hc : isReturn c = false) (hhead : text.head? = some c) :
    (firstLine text).drop 1 = firstLine (text.drop 1) := by
  obtain ⟨rest, rfl⟩ := List.head?_eq_some_iff.mp hhead
  rw [firstLine_cons hc]
  rfl

/-! ## Unified line breaks -/

/-- A character that does not end a line remains. -/
theorem unifyLineBreaks_cons (hc : isReturn c = false) :
    unifyLineBreaks (c :: text) = c :: unifyLineBreaks text := by
  obtain ⟨_, hreturn⟩ := isReturn_eq_false_iff.mp hc
  rw [unifyLineBreaks]
  · rintro rest rfl
    exact absurd rfl hreturn
  · exact hreturn

/-- A line break becomes a line feed, whether it has one character or two. -/
theorem exists_unifyLineBreaks_of_isReturn (hc : isReturn c = true) (text : List Char) :
    ∃ rest, (text = rest ∨ text = '\n' :: rest) ∧
      unifyLineBreaks (c :: text) = '\n' :: unifyLineBreaks rest := by
  rcases isReturn_eq_true_iff.mp hc with rfl | rfl
  · refine ⟨text, .inl rfl, ?_⟩
    rw [unifyLineBreaks] <;> simp
  · by_cases htext : ∃ rest, text = '\n' :: rest
    · obtain ⟨rest, rfl⟩ := htext
      exact ⟨rest, .inr rfl, by rw [unifyLineBreaks]⟩
    · refine ⟨text, .inl rfl, ?_⟩
      rw [unifyLineBreaks]
      rintro rest rfl
      exact htext ⟨rest, rfl⟩

/-- The first line is not changed when line breaks are unified. -/
theorem firstLine_unifyLineBreaks (text : List Char) :
    firstLine (unifyLineBreaks text) = firstLine text := by
  induction text with
  | nil => rfl
  | cons c text ih =>
    by_cases hc : isReturn c = true
    · obtain ⟨rest, _, hunify⟩ := exists_unifyLineBreaks_of_isReturn hc text
      rw [hunify, firstLine_cons_of_isReturn hc]
      exact firstLine_cons_of_isReturn rfl
    · have hother : isReturn c = false := by simpa using hc
      rw [unifyLineBreaks_cons hother, firstLine_cons hother, firstLine_cons hother, ih]

/-- Behind a part of the first line the line breaks of what is left are unified. -/
theorem drop_unifyLineBreaks (hn : n ≤ (firstLine text).length) :
    (unifyLineBreaks text).drop n = unifyLineBreaks (text.drop n) := by
  induction text generalizing n with
  | nil => rw [unifyLineBreaks, List.drop_nil, unifyLineBreaks]
  | cons c text ih =>
    cases n with
    | zero => rfl
    | succ n =>
      by_cases hc : isReturn c = true
      · rw [firstLine_cons_of_isReturn hc] at hn
        cases hn
      · have hother : isReturn c = false := by simpa using hc
        rw [firstLine_cons hother] at hn
        rw [unifyLineBreaks_cons hother]
        exact ih (Nat.le_of_succ_le_succ hn)

end EnumBindings.Text
