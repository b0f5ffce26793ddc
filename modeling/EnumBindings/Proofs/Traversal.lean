import Mathlib.Data.List.Forall2

/-!
# Lists that are read item by item

Reading a list succeeds with one result for each item, and it succeeds at all exactly if it does for
each item.
-/

namespace EnumBindings

variable {α β ε : Type}

/-- A list is read as the list of what its items are read as. -/
theorem mapM_eq_ok_iff {read : α → Except ε β} {items : List α} {found : List β} :
    items.mapM read = .ok found ↔
      List.Forall₂ (fun item result => read item = .ok result) items found := by
  induction items generalizing found with
  | nil =>
    rw [List.mapM_nil, List.forall₂_nil_left_iff]
    exact ⟨fun h => (Except.ok.inj h).symm, fun h => h ▸ rfl⟩
  | cons item items ih =>
    rw [List.mapM_cons, List.forall₂_cons_left_iff]
    cases hitem : read item with
    | error error => simp [bind, Except.bind]
    | ok result =>
      cases hitems : items.mapM read with
      | error error => simp [bind, Except.bind, ← ih, hitems]
      | ok results => simp [bind, Except.bind, pure, Except.pure, ← ih, hitems, eq_comm]

/-- What is found in a list is related to one of its items. -/
theorem exists_related_of_mem {related : α → β → Prop} {items : List α} {found : List β}
    (hfound : List.Forall₂ related items found) {b : β} (hb : b ∈ found) :
    ∃ item ∈ items, related item b := by
  induction hfound with
  | nil => cases hb
  | cons hfirst _ ih =>
    rcases List.mem_cons.mp hb with rfl | hb
    · exact ⟨_, List.mem_cons_self, hfirst⟩
    · obtain ⟨item, hitem, hrelated⟩ := ih hb
      exact ⟨item, List.mem_cons_of_mem _ hitem, hrelated⟩

/-- Each item is related to something exactly if the whole list is. -/
theorem exists_forall₂_iff {related : α → β → Prop} (items : List α) :
    (∃ found, List.Forall₂ related items found) ↔ ∀ item ∈ items, ∃ a, related item a := by
  induction items with
  | nil => exact iff_of_true ⟨[], .nil⟩ fun _ hmem => (List.not_mem_nil hmem).elim
  | cons item items ih =>
    rw [List.forall_mem_cons, ← ih]
    constructor
    · rintro ⟨_, hfound⟩
      cases hfound with
      | cons ha hfound => exact ⟨⟨_, ha⟩, ⟨_, hfound⟩⟩
    · rintro ⟨⟨a, ha⟩, ⟨found, hfound⟩⟩
      exact ⟨a :: found, .cons ha hfound⟩

/-- Of items that do not all have a property one is the first. -/
theorem exists_first_not {property : α → Prop} {items : List α}
    (hitems : ¬ ∀ item ∈ items, property item) :
    ∃ before item rest, items = before ++ item :: rest ∧ (∀ item ∈ before, property item) ∧
      ¬ property item := by
  induction items with
  | nil => exact (hitems (List.forall_mem_nil _)).elim
  | cons item items ih =>
    by_cases hitem : property item
    · have hrest : ¬ ∀ item ∈ items, property item := fun hall =>
        hitems (List.forall_mem_cons.mpr ⟨hitem, hall⟩)
      obtain ⟨before, first, rest, rfl, hbefore, hfirst⟩ := ih hrest
      exact ⟨item :: before, first, rest, rfl, List.forall_mem_cons.mpr ⟨hitem, hbefore⟩, hfirst⟩
    · exact ⟨[], item, items, rfl, List.forall_mem_nil _, hitem⟩

end EnumBindings
