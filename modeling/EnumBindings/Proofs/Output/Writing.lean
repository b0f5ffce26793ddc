import EnumBindings.Output.Writing

/-!
# What writing leaves behind

Code is written fragment by fragment. A fragment is added whole, unless a number in it cannot be
written; then the writing is over, and of that fragment the draft has its first name. So what is
written does not depend on the draft: it is found from the fragments alone.
-/

namespace EnumBindings

open Script

namespace Fragment

/-- What is noted of a fragment before its numbers are spelled: its first name. -/
def begun (fragment : Fragment) : Fragment :=
  ⟨fragment.symbols.take 1, false, [], []⟩

/-- What is written of fragments: all up to the first that does not fit, which is only begun. -/
def written (limits : Limits) : List Fragment → List Fragment
  | [] => []
  | fragment :: rest =>
    if fragment.fits limits then fragment :: written limits rest else [fragment.begun]

/-- How the writing of fragments ends. -/
def ending (limits : Limits) (fragments : List Fragment) : Except WriteError Unit :=
  if fragments.all (·.fits limits) then .ok () else .error .longNumber

variable {limits : Limits} {fragment : Fragment} {rest fragments : List Fragment}

theorem written_cons_of_fits (hfits : fragment.fits limits = true) :
    written limits (fragment :: rest) = fragment :: written limits rest :=
  if_pos hfits

theorem written_cons_of_not_fits (hfits : fragment.fits limits = false) :
    written limits (fragment :: rest) = [fragment.begun] := by
  rw [written, if_neg (by simp [hfits])]

/-- What is written of two groups of fragments: the second is reached if the first fits. -/
theorem written_append (first second : List Fragment) :
    written limits (first ++ second) =
      if first.all (·.fits limits) then first ++ written limits second
      else written limits first := by
  induction first with
  | nil => rfl
  | cons fragment first ih =>
    cases hfits : fragment.fits limits with
    | true =>
      rw [List.cons_append, written_cons_of_fits hfits, ih, List.all_cons, hfits, Bool.true_and,
        written_cons_of_fits hfits]
      split <;> rfl
    | false =>
      rw [List.cons_append, written_cons_of_not_fits hfits, written_cons_of_not_fits hfits,
        List.all_cons, hfits]
      rfl

/-- Fragments that fit are written whole. -/
theorem written_of_fits (hfits : fragments.all (·.fits limits) = true) :
    written limits fragments = fragments := by
  have happend := @written_append limits fragments []
  rw [List.append_nil, if_pos hfits] at happend
  exact happend.trans (List.append_nil _)

theorem ending_of_fits (hfits : fragments.all (·.fits limits) = true) :
    ending limits fragments = .ok () :=
  if_pos hfits

theorem ending_of_not_fits (hfits : fragments.all (·.fits limits) = false) :
    ending limits fragments = .error .longNumber := by
  rw [ending, hfits]
  rfl

/-- A fragment does not fit if one of its numbers is too long. -/
theorem fits_eq_false {number : Int} (hnumber : number ∈ fragment.numbers)
    (hlong : limits.allowsNumber number = false) : fragment.fits limits = false :=
  List.all_eq_false.mpr ⟨number, hnumber, by simp [hlong]⟩

/-- Without limits every fragment fits. -/
@[simp] theorem fits_unlimited (fragment : Fragment) : fragment.fits {} = true := by
  simp [fits]

end Fragment

/-- No lines add no fragment. -/
theorem Draft.append_nil (draft : Draft) : draft.append [] = draft := by
  have hnone : visibleCode [] = [] := rfl
  rw [append, hnone, List.append_nil]

/-- Fragments in two lists are added one list after the other. -/
theorem Draft.addAll_append (draft : Draft) (first second : List Fragment) :
    draft.addAll (first ++ second) = (draft.addAll first).addAll second :=
  List.foldl_append

/-- Without limits all that is written for a binding fits. -/
@[simp] theorem Binding.fits_unlimited (binding : Binding) : binding.fits {} = true := by
  simp [fits]

namespace Writing

variable {α β : Type} {limits : Limits}

/-- What follows changes is done on the draft that they leave, unless they fail. -/
theorem runOn_bind_eq (writing : Writing α) (rest : α → Writing β) (draft : Draft) :
    (writing >>= rest).runOn draft =
      match writing.runOn draft with
      | (.ok answer, next) => (rest answer).runOn next
      | (.error error, next) => (.error error, next) := by
  have hbind : (writing >>= rest).runOn draft =
      (ExceptT.bindCont rest (writing.runOn draft).1).run (writing.runOn draft).2 := rfl
  rw [hbind]
  rcases writing.runOn draft with ⟨_ | _, _⟩ <;> rfl

theorem runOn_bind {writing : Writing α} {draft next : Draft} {answer : α}
    (hrun : writing.runOn draft = (.ok answer, next)) (rest : α → Writing β) :
    (writing >>= rest).runOn draft = (rest answer).runOn next := by
  rw [runOn_bind_eq, hrun]

theorem runOn_bind_of_error {writing : Writing α} {draft next : Draft} {error : WriteError}
    (hrun : writing.runOn draft = (.error error, next)) (rest : α → Writing β) :
    (writing >>= rest).runOn draft = (.error error, next) := by
  rw [runOn_bind_eq, hrun]

/-- Numbers are spelled if all of them may be written; the draft stays as it is. -/
theorem runOn_spell (numbers : List Int) (draft : Draft) :
    (spell limits numbers).runOn draft =
      (if numbers.all limits.allowsNumber then .ok () else .error .longNumber, draft) := by
  unfold spell
  split <;> rfl

/-- Changes that write fragments, whatever the draft. -/
def Writes (limits : Limits) (writing : Writing Unit) (fragments : List Fragment) : Prop :=
  ∀ draft, writing.runOn draft =
    (Fragment.ending limits fragments, draft.addAll (Fragment.written limits fragments))

/-- A fragment is written by noting its first name, spelling its numbers and doing the rest. -/
theorem Writes.of_spell {fragment : Fragment} {symbol : String} {symbols : List String}
    (hsymbols : fragment.symbols = symbol :: symbols) {rest : Writing Unit}
    (hrest : ∀ draft : Draft, rest.runOn (draft.define symbol) = (.ok (), draft.add fragment)) :
    Writes limits (define symbol >>= fun _ => spell limits fragment.numbers >>= fun _ => rest)
      [fragment] := by
  intro draft
  have hname : (define symbol).runOn draft = (.ok (), draft.define symbol) := rfl
  have hspell : (spell limits fragment.numbers).runOn (draft.define symbol) =
      (if fragment.fits limits then .ok () else .error .longNumber, draft.define symbol) :=
    runOn_spell _ _
  have hbegun : draft.addAll [fragment.begun] = draft.define symbol := by
    show draft.add fragment.begun = _
    unfold Fragment.begun
    rw [hsymbols]
    exact Draft.append_nil _
  rw [runOn_bind hname]
  cases hfits : fragment.fits limits with
  | true =>
    rw [if_pos hfits] at hspell
    rw [runOn_bind hspell, hrest, Fragment.ending_of_fits (by simp [hfits]),
      Fragment.written_cons_of_fits hfits]
    rfl
  | false =>
    rw [if_neg (by simp [hfits])] at hspell
    rw [runOn_bind_of_error hspell, Fragment.ending_of_not_fits (by simp [hfits]),
      Fragment.written_cons_of_not_fits hfits, hbegun]

/-- What is written first comes before what is written then. -/
theorem Writes.bind {first second : Writing Unit} {fragments others : List Fragment}
    (hfirst : Writes limits first fragments) (hsecond : Writes limits second others) :
    Writes limits (first >>= fun _ => second) (fragments ++ others) := by
  intro draft
  have hrun := hfirst draft
  rw [Fragment.written_append]
  cases hfits : fragments.all (·.fits limits) with
  | true =>
    rw [Fragment.ending_of_fits hfits, Fragment.written_of_fits hfits] at hrun
    rw [runOn_bind hrun, hsecond, if_pos rfl, Draft.addAll_append, Fragment.ending,
      Fragment.ending, List.all_append, hfits, Bool.true_and]
  | false =>
    rw [Fragment.ending_of_not_fits hfits] at hrun
    rw [runOn_bind_of_error hrun, if_neg Bool.false_ne_true, Fragment.ending_of_not_fits]
    rw [List.all_append, hfits, Bool.false_and]

/-- A declaration is written as its fragment. -/
theorem writes_declare (limits : Limits) (binding : Binding) :
    Writes limits (declare limits binding) [binding.declarationFragment] := by
  refine @Writes.of_spell limits binding.declarationFragment _ _ rfl _ fun draft => ?_
  unfold Draft.add Binding.declarationFragment Declaration.fragment
  cases binding.declaration.scope <;> rfl

/-- A conversion is written as its fragment. -/
theorem writes_convert (limits : Limits) (conversion : Conversion) :
    Writes limits (convert limits conversion) [conversion.fragment] := by
  refine @Writes.of_spell limits conversion.fragment _ _ rfl _ fun draft => ?_
  unfold Draft.add Conversion.fragment
  cases conversion.refuses <;> rfl

/-- Conversions are written as their fragments. -/
theorem writes_forM_convert (limits : Limits) (conversions : List Conversion) :
    Writes limits (forM conversions (convert limits)) (conversions.map (·.fragment)) := by
  induction conversions with
  | nil =>
    intro draft
    rfl
  | cons conversion conversions ih =>
    rw [List.forM_cons]
    exact (writes_convert limits conversion).bind ih

/-- An enumeration with a name is written as the fragments of its binding. -/
theorem writes_enum (limits : Limits) {binding : Binding} (hname : binding.enum.fullName ≠ "") :
    Writes limits (enum limits binding) binding.fragments := by
  unfold enum
  rw [if_neg (by simpa using hname)]
  exact (writes_declare limits binding).bind (writes_forM_convert limits binding.conversions)

/-- Enumerations with names are written one after the other. -/
theorem writes_forM_enum (limits : Limits) (options : Options) {enums : List EnumDescriptor}
    (hnamed : ∀ enum ∈ enums, enum.fullName ≠ "") :
    Writes limits (forM enums fun enum => Writing.enum limits ⟨enum, options⟩)
      (enums.flatMap fun enum => (Binding.mk enum options).fragments) := by
  induction enums with
  | nil =>
    intro draft
    rfl
  | cons enum enums ih =>
    have hfirst := @writes_enum limits ⟨enum, options⟩ (hnamed enum List.mem_cons_self)
    rw [List.forM_cons]
    exact hfirst.bind (ih fun other hother => hnamed other (List.mem_cons_of_mem _ hother))

/-- An enumeration without a name is refused, and nothing is written. -/
theorem runOn_enum_of_unnamed {binding : Binding} (hempty : binding.enum.fullName = "")
    (draft : Draft) :
    (enum limits binding).runOn draft = (.error (.refused
      ⟨.emptyName, if binding.enum.name = "" then none else some binding.enum.name⟩), draft) := by
  unfold enum
  rw [if_pos (by simpa using hempty)]
  simp only [String.isEmpty_iff]
  rfl

end Writing

end EnumBindings
