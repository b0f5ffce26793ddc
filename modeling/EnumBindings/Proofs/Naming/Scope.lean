import EnumBindings.Naming.Scope

/-!
# Scopes and references

A full name is split at its last underscore, and other code refers to what it names with a dot in
place of that underscore. Names without dots can be told apart by their references, whether they are
split or not, and the split of a name is the only one whose local name has no underscore.
-/

namespace EnumBindings

variable {nested : Bool} {fullName left right : String} {scope other : Scope}

/-- A name is split exactly where nesting is asked for, at an underscore behind which there is no
other. -/
theorem Scope.split?_eq_some_iff :
    Scope.split? nested fullName = some scope ↔
      nested = true ∧ fullName = scope.enclosing ++ "_" ++ scope.localName ∧
        '_' ∉ scope.localName.toList := by
  have hname : fullName = scope.enclosing ++ "_" ++ scope.localName ↔
      fullName.toList = scope.enclosing.toList ++ '_' :: scope.localName.toList := by
    rw [← String.toList_inj]
    simp
  rw [hname, Scope.split?]
  cases nested with
  | false => simp
  | true =>
    rw [if_pos rfl, Option.map_eq_some_iff, ← Text.cutAtLast?_eq_some_iff]
    constructor
    · rintro ⟨⟨before, behind⟩, hcut, rfl⟩
      simpa using hcut
    · rintro ⟨_, hcut⟩
      exact ⟨_, hcut, by simp⟩

/-- A name is left whole exactly where nesting is not asked for or there is no underscore. -/
theorem Scope.split?_eq_none_iff :
    Scope.split? nested fullName = none ↔ nested = false ∨ '_' ∉ fullName.toList := by
  rw [Scope.split?]
  cases nested with
  | false => simp
  | true => rw [if_pos rfl, Option.map_eq_none_iff, Text.cutAtLast?_eq_none_iff]; simp

/-- A name that is split consists of its scope and its local name with an underscore between. -/
theorem Scope.toList_of_split? (hscope : Scope.split? nested fullName = some scope) :
    fullName.toList = scope.enclosing.toList ++ '_' :: scope.localName.toList := by
  obtain ⟨_, hname, _⟩ := Scope.split?_eq_some_iff.mp hscope
  rw [hname]
  simp

/-- The reference of a scope is cut at its dot, if the scope has no other in front. -/
theorem Scope.cutAtFirst_reference (hscope : '.' ∉ scope.enclosing.toList) :
    Text.cutAtFirst '.' scope.reference.toList =
      (scope.enclosing.toList, some scope.localName.toList) := by
  have hreference : scope.reference.toList =
      scope.enclosing.toList ++ '.' :: scope.localName.toList := by
    simp [Scope.reference]
  rw [hreference, Text.cutAtFirst_append_cons hscope]

/-- The enclosing name of a split has no character that the full name has not. -/
theorem Scope.notMem_enclosing_of_split? {c : Char}
    (hscope : Scope.split? nested fullName = some scope) (hname : c ∉ fullName.toList) :
    c ∉ scope.enclosing.toList := by
  rw [Scope.toList_of_split? hscope, List.mem_append, not_or] at hname
  exact hname.1

/-- A scope is known by its reference, if there is no dot in what encloses it. -/
theorem Scope.eq_of_reference_eq (hscope : '.' ∉ scope.enclosing.toList)
    (hother : '.' ∉ other.enclosing.toList) (heq : scope.reference = other.reference) :
    scope = other := by
  have hcut := congrArg (fun name => Text.cutAtFirst '.' name.toList) heq
  simp only [Scope.cutAtFirst_reference hscope, Scope.cutAtFirst_reference hother, Prod.mk.injEq,
    Option.some.injEq, String.toList_inj] at hcut
  cases scope
  cases other
  simpa using hcut

/-- A reference within a scope is no name without a dot. -/
theorem Scope.reference_ne (scope : Scope) (hname : '.' ∉ fullName.toList) :
    scope.reference ≠ fullName := by
  rintro rfl
  exact hname (by simp [Scope.reference])

/-- Names without dots have different references. -/
theorem eq_of_reference_split?_eq (hleft : '.' ∉ left.toList) (hright : '.' ∉ right.toList)
    (heq : reference left (Scope.split? nested left) =
      reference right (Scope.split? nested right)) : left = right := by
  cases hscope : Scope.split? nested left with
  | none =>
    cases hother : Scope.split? nested right with
    | none => rwa [hscope, hother] at heq
    | some other =>
      rw [hscope, hother] at heq
      exact absurd heq.symm (other.reference_ne hleft)
  | some scope =>
    cases hother : Scope.split? nested right with
    | none =>
      rw [hscope, hother] at heq
      exact absurd heq (scope.reference_ne hright)
    | some other =>
      rw [hscope, hother] at heq
      have hsame : scope = other := Scope.eq_of_reference_eq
        (Scope.notMem_enclosing_of_split? hscope hleft)
        (Scope.notMem_enclosing_of_split? hother hright) heq
      rw [← String.toList_inj, Scope.toList_of_split? hscope, Scope.toList_of_split? hother, hsame]

/-- Names are told apart by their references, if they have no dots. A name that is split is its
scope and its local name with an underscore between, in the only way in which the local name has
none; it is left whole exactly where nesting is not asked for or there is no underscore. -/
theorem references_distinguish_names (nested : Bool) :
    (∀ left right : String, '.' ∉ left.toList → '.' ∉ right.toList →
      reference left (Scope.split? nested left) = reference right (Scope.split? nested right) →
        left = right) ∧
    (∀ (fullName : String) (scope : Scope), Scope.split? nested fullName = some scope →
      (fullName = scope.enclosing ++ "_" ++ scope.localName ∧
        '_' ∉ scope.localName.toList) ∧
      ∀ enclosing localName : String, fullName = enclosing ++ "_" ++ localName →
        '_' ∉ localName.toList → (⟨enclosing, localName⟩ : Scope) = scope) ∧
    ∀ fullName : String,
      Scope.split? nested fullName = none ↔ nested = false ∨ '_' ∉ fullName.toList := by
  refine ⟨fun left right => eq_of_reference_split?_eq, ?_, fun _ => Scope.split?_eq_none_iff⟩
  intro fullName scope hscope
  obtain ⟨hnested, hsplit⟩ := Scope.split?_eq_some_iff.mp hscope
  refine ⟨hsplit, ?_⟩
  intro enclosing localName hname hlast
  have hagain : Scope.split? nested fullName = some ⟨enclosing, localName⟩ :=
    Scope.split?_eq_some_iff.mpr ⟨hnested, hname, hlast⟩
  exact Option.some.inj (hagain.symm.trans hscope)

/-- An underscore in front is a place to split, with nothing around it; a name within a scope and
one that is left whole have different references. -/
theorem references_distinguish_names_leading :
    Scope.split? true "_Inner" = some ⟨"", "Inner"⟩ ∧
      (⟨"", "Inner"⟩ : Scope).reference = ".Inner" ∧
      (∀ enclosing localName : String, "_Inner" = enclosing ++ "_" ++ localName →
        '_' ∉ localName.toList → (⟨enclosing, localName⟩ : Scope) = ⟨"", "Inner"⟩) ∧
      reference "Inner" (Scope.split? true "Inner") ≠
        reference "_Inner" (Scope.split? true "_Inner") := by
  obtain ⟨hinjective, hunique, _⟩ := references_distinguish_names true
  have hsplit : Scope.split? true "_Inner" = some ⟨"", "Inner"⟩ := by decide
  refine ⟨hsplit, by decide, (hunique _ _ hsplit).2, fun heq => ?_⟩
  exact absurd (hinjective "Inner" "_Inner" (by decide) (by decide) heq) (by decide)

end EnumBindings
