import EnumBindings.Output.Draft
import EnumBindings.Output.Error

/-!
# Writing code

Code is written into a draft in place: a name is noted, numbers are spelled, a helper is asked for,
lines are added. The writing may end with an error, and then the draft keeps what was done before.
-/

namespace EnumBindings

open Script

/-- Changes to a draft in place. What was changed before a failure stays changed. -/
abbrev Writing := ExceptT WriteError (StateM Draft)

namespace Writing

/-- Notes a name. -/
def define (symbol : String) : Writing Unit :=
  modify (·.define symbol)

/-- Spells numbers, all of which must be allowed. -/
def spell (limits : Limits) (numbers : List Int) : Writing Unit :=
  if numbers.all limits.allowsNumber then pure () else throw .longNumber

/-- Adds lines of code as one fragment. -/
def append (lines : List String) : Writing Unit :=
  modify (·.append lines)

/-- Asks for the helper with a name. -/
def require (name : String) : Writing Unit :=
  match Helper.ofName? name with
  | some helper => modify (·.require helper)
  | none => throw (.unknownHelper ⟨name⟩)

/-- Writes the declaration of a binding. The numbers are spelled when its own name has been noted,
but not yet that of its scope. -/
def declare (limits : Limits) (binding : Binding) : Writing Unit := do
  define binding.declaration.name
  spell limits binding.declarationFragment.numbers
  forM binding.declaration.scope define
  append binding.declaration.lines

/-- Writes a conversion. The helper is asked for by the name under which the code uses it. -/
def convert (limits : Limits) (conversion : Conversion) : Writing Unit := do
  define conversion.name
  spell limits conversion.numbers
  if conversion.refuses then require globalObjectName
  append conversion.lines

/-- Writes an enumeration, which must have a full name. -/
def enum (limits : Limits) (binding : Binding) : Writing Unit := do
  if binding.enum.fullName.isEmpty then
    throw (.refused
      ⟨.emptyName, if binding.enum.name.isEmpty then none else some binding.enum.name⟩)
  declare limits binding
  forM binding.conversions (convert limits)

/-- The answer or the failure of changes to a draft, and the draft that they leave. -/
def runOn {α : Type} (writing : Writing α) (draft : Draft) : Except WriteError α × Draft :=
  writing.run.run draft

end Writing

end EnumBindings
