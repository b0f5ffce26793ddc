/-!
# Pieces of a separated text

Cutting a text at every occurrence of one character. A text with `n` separators
has `n + 1` pieces, some of which may be empty.
-/

namespace EnumBindings.Text

/-- Joined lists begin with the first of them, and a separator stands before each of the others. -/
theorem intercalate_cons_eq_append {α : Type} (separator : α) (first : List α)
    (rest : List (List α)) :
    [separator].intercalate (first :: rest) = first ++ rest.flatMap (separator :: ·) := by
  induction rest generalizing first with
  | nil => simp
  | cons second rest ih =>
    rw [List.intercalate_cons_cons, ih]
    simp

/-- The pieces between the separators. -/
def pieces (separator : Char) : List Char → List (List Char)
  | [] => [[]]
  | c :: text =>
    if c = separator then [] :: pieces separator text
    else
      match pieces separator text with
      | [] => [[c]]
      | piece :: rest => (c :: piece) :: rest

theorem pieces_ne_nil (separator : Char) (text : List Char) : pieces separator text ≠ [] := by
  cases text with
  | nil => simp [pieces]
  | cons c text =>
    unfold pieces
    split
    · simp
    · split <;> simp

/-- Joining the pieces gives the text back. -/
theorem intercalate_pieces (separator : Char) (text : List Char) :
    [separator].intercalate (pieces separator text) = text := by
  induction text with
  | nil => rfl
  | cons c text ih =>
    obtain ⟨piece, rest, hpieces⟩ := List.exists_cons_of_ne_nil (pieces_ne_nil separator text)
    unfold pieces
    rw [hpieces] at ih ⊢
    split
    · next hc => rw [List.intercalate_cons_cons, ih, hc]; rfl
    · cases rest <;> simpa [List.intercalate] using ih

/-- A separator keeps the pieces on its two sides apart. -/
theorem pieces_append_cons (separator : Char) (left right : List Char) :
    pieces separator (left ++ separator :: right) =
      pieces separator left ++ pieces separator right := by
  induction left with
  | nil => simp [pieces]
  | cons c left ih =>
    obtain ⟨piece, rest, hpieces⟩ := List.exists_cons_of_ne_nil (pieces_ne_nil separator left)
    rw [List.cons_append, pieces, pieces, ih, hpieces]
    split <;> simp

theorem pieces_of_notMem {separator : Char} {text : List Char} (htext : separator ∉ text) :
    pieces separator text = [text] := by
  induction text with
  | nil => rfl
  | cons c text ih =>
    rw [List.mem_cons, not_or] at htext
    rw [pieces, if_neg (Ne.symm htext.1), ih htext.2]

/-- Cutting joined texts gives the texts back if none of them has a separator. -/
theorem pieces_intercalate {separator : Char} {texts : List (List Char)} (htexts : texts ≠ [])
    (hfree : ∀ text ∈ texts, separator ∉ text) :
    pieces separator ([separator].intercalate texts) = texts := by
  induction texts with
  | nil => exact absurd rfl htexts
  | cons first rest ih =>
    have hfirst := pieces_of_notMem (hfree first List.mem_cons_self)
    cases rest with
    | nil => rw [List.intercalate_singleton, hfirst]
    | cons second rest =>
      rw [List.intercalate_cons_cons, List.append_assoc, List.singleton_append,
        pieces_append_cons, hfirst,
        ih (List.cons_ne_nil _ _) fun text htext => hfree text (List.mem_cons_of_mem _ htext)]
      rfl

/-- No piece has a separator. -/
theorem notMem_of_mem_pieces {separator : Char} {text piece : List Char}
    (hpiece : piece ∈ pieces separator text) : separator ∉ piece := by
  induction text generalizing piece with
  | nil => rw [pieces, List.mem_singleton] at hpiece; simp [hpiece]
  | cons c text ih =>
    obtain ⟨first, rest, hpieces⟩ := List.exists_cons_of_ne_nil (pieces_ne_nil separator text)
    rw [pieces, hpieces] at hpiece
    rw [hpieces] at ih
    split at hpiece
    · rcases List.mem_cons.mp hpiece with rfl | hpiece
      · simp
      · exact ih hpiece
    · next hc =>
      rcases List.mem_cons.mp hpiece with rfl | hpiece
      · exact List.not_mem_cons_of_ne_of_not_mem (Ne.symm hc) (ih List.mem_cons_self)
      · exact ih (List.mem_cons_of_mem _ hpiece)

/-- Every piece is a part of the text. -/
theorem infix_of_mem_pieces {separator : Char} {text piece : List Char}
    (hpiece : piece ∈ pieces separator text) : piece <:+: text := by
  rw [← intercalate_pieces separator text]
  generalize pieces separator text = texts at hpiece
  induction texts with
  | nil => cases hpiece
  | cons first rest ih =>
    cases rest with
    | nil =>
      rw [List.intercalate_singleton]
      exact (List.mem_singleton.mp hpiece).symm ▸ List.infix_rfl
    | cons second rest =>
      rw [List.intercalate_cons_cons]
      rcases List.mem_cons.mp hpiece with rfl | hpiece
      · rw [List.append_assoc]
        exact (List.prefix_append _ _).isInfix
      · exact (ih hpiece).trans (List.suffix_append _ _).isInfix

/-- What stands before the first separator, and what stands behind it if there is one. -/
def cutAtFirst (separator : Char) : List Char → List Char × Option (List Char)
  | [] => ([], none)
  | c :: text =>
    if c = separator then ([], some text)
    else
      let (before, behind) := cutAtFirst separator text
      (c :: before, behind)

/-- What stands before and behind the last separator, if there is one. -/
def cutAtLast? (separator : Char) : List Char → Option (List Char × List Char)
  | [] => none
  | c :: text =>
    match cutAtLast? separator text with
    | some (before, behind) => some (c :: before, behind)
    | none => if c = separator then some ([], text) else none

theorem cutAtFirst_of_notMem {separator : Char} {text : List Char} (htext : separator ∉ text) :
    cutAtFirst separator text = (text, none) := by
  induction text with
  | nil => rfl
  | cons c text ih =>
    rw [List.mem_cons, not_or] at htext
    rw [cutAtFirst, if_neg (Ne.symm htext.1), ih htext.2]

theorem cutAtFirst_append_cons {separator : Char} {before : List Char}
    (hbefore : separator ∉ before) (behind : List Char) :
    cutAtFirst separator (before ++ separator :: behind) = (before, some behind) := by
  induction before with
  | nil => simp [cutAtFirst]
  | cons c before ih =>
    rw [List.mem_cons, not_or] at hbefore
    rw [List.cons_append, cutAtFirst, if_neg (Ne.symm hbefore.1), ih hbefore.2]

/-- There is no cut exactly where there is no separator. -/
theorem cutAtLast?_eq_none_iff {separator : Char} {text : List Char} :
    cutAtLast? separator text = none ↔ separator ∉ text := by
  induction text with
  | nil => simp [cutAtLast?]
  | cons c text ih =>
    rw [cutAtLast?, List.mem_cons, not_or, ← ih]
    cases cutAtLast? separator text with
    | none => simp [eq_comm]
    | some cut => simp

/-- The cut is at a separator behind which there is no other. -/
theorem cutAtLast?_eq_some_iff {separator : Char} {text before behind : List Char} :
    cutAtLast? separator text = some (before, behind) ↔
      text = before ++ separator :: behind ∧ separator ∉ behind := by
  induction text generalizing before behind with
  | nil => simp [cutAtLast?]
  | cons c text ih =>
    rw [cutAtLast?]
    cases hcut : cutAtLast? separator text with
    | none =>
      have htext := cutAtLast?_eq_none_iff.mp hcut
      show (if c = separator then some ([], text) else none) = some (before, behind) ↔ _
      by_cases hc : c = separator
      · rw [if_pos hc, Option.some.injEq, Prod.mk.injEq]
        constructor
        · rintro ⟨rfl, rfl⟩
          exact ⟨by rw [hc]; rfl, htext⟩
        · rintro ⟨h, _⟩
          cases before with
          | nil => exact ⟨rfl, (List.cons.inj h).2⟩
          | cons b before => exact absurd (by rw [(List.cons.inj h).2]; simp) htext
      · rw [if_neg hc]
        refine ⟨fun h => absurd h (by simp), ?_⟩
        rintro ⟨h, _⟩
        cases before with
        | nil => exact absurd (List.cons.inj h).1 hc
        | cons b before => exact absurd (by rw [(List.cons.inj h).2]; simp) htext
    | some cut =>
      obtain ⟨left, right⟩ := cut
      obtain ⟨htext, hright⟩ := ih.mp hcut
      show some (c :: left, right) = some (before, behind) ↔ _
      rw [Option.some.injEq, Prod.mk.injEq]
      constructor
      · rintro ⟨rfl, rfl⟩
        exact ⟨by rw [htext]; rfl, hright⟩
      · rintro ⟨h, hbehind⟩
        cases before with
        | nil => exact absurd (by rw [← (List.cons.inj h).2, htext]; simp) hbehind
        | cons b before =>
          obtain ⟨rfl, htail⟩ := List.cons.inj h
          have hagain := ih.mpr ⟨htail, hbehind⟩
          rw [hcut, Option.some.injEq, Prod.mk.injEq] at hagain
          rw [hagain.1, hagain.2]
          exact ⟨rfl, rfl⟩

end EnumBindings.Text
