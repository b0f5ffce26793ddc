import EnumBindings.Output.Fragment
import EnumBindings.Output.Helper
import EnumBindings.Text.Blank

/-!
# The draft of a module

A draft collects fragments in order, the names that they introduce and the helpers that
they need. A fragment without visible text is dropped.
-/

namespace EnumBindings

/-- A module that is being written. -/
structure Draft where
  /-- The names introduced so far, in the order of their first introduction. -/
  definitions : List String := []
  needsGlobalObject : Bool := false
  fragments : List String := []
  deriving DecidableEq, Repr

namespace Draft

/-- Notes a name unless it is known. -/
def define (draft : Draft) (symbol : String) : Draft :=
  if symbol ∈ draft.definitions then draft
  else { draft with definitions := draft.definitions ++ [symbol] }

/-- Notes a helper. -/
def require (draft : Draft) : Helper → Draft
  | .globalObject => { draft with needsGlobalObject := true }

/-- The code of lines, if there is any visible text in them. -/
def visibleCode (lines : List String) : List String :=
  let code := Script.joinLines lines
  if (Text.trim code.toList).isEmpty then [] else [code]

/-- Adds lines of code as one fragment. -/
def append (draft : Draft) (lines : List String) : Draft :=
  { draft with fragments := draft.fragments ++ visibleCode lines }

/-- Adds a fragment with its names and its helper. -/
def add (draft : Draft) (fragment : Fragment) : Draft :=
  let draft := fragment.symbols.foldl define draft
  let draft := if fragment.needsGlobalObject then draft.require .globalObject else draft
  draft.append fragment.lines

/-- Adds fragments in order. -/
def addAll (draft : Draft) (fragments : List Fragment) : Draft :=
  fragments.foldl add draft

@[simp] theorem fragments_define (draft : Draft) (symbol : String) :
    (draft.define symbol).fragments = draft.fragments := by
  unfold define
  split <;> rfl

@[simp] theorem fragments_defineAll (draft : Draft) (symbols : List String) :
    (symbols.foldl define draft).fragments = draft.fragments := by
  induction symbols generalizing draft with
  | nil => rfl
  | cons symbol symbols ih => rw [List.foldl_cons, ih, fragments_define]

/-- What a fragment contributes does not depend on the draft that it is added to. -/
@[simp] theorem fragments_add (draft : Draft) (fragment : Fragment) :
    (draft.add fragment).fragments = draft.fragments ++ visibleCode fragment.lines := by
  unfold add append
  cases fragment.needsGlobalObject <;> simp [require]

theorem fragments_addAll (draft : Draft) (fragments : List Fragment) :
    (draft.addAll fragments).fragments =
      draft.fragments ++ fragments.flatMap (visibleCode ·.lines) := by
  unfold addAll
  induction fragments generalizing draft with
  | nil => simp
  | cons fragment fragments ih => rw [List.foldl_cons, ih]; simp

/-- The helpers that the fragments need. -/
def helpers (draft : Draft) : List Helper :=
  if draft.needsGlobalObject then [.globalObject] else []

/-- The code of the helpers. -/
def helperCode (draft : Draft) : List String :=
  draft.helpers.map Helper.code

/-- The code of the fragments with a blank line between them. -/
def body (draft : Draft) : String :=
  "\n\n".intercalate draft.fragments

end Draft

end EnumBindings
