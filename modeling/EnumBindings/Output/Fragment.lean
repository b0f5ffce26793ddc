import EnumBindings.Binding.Conversions
import EnumBindings.Binding.Declaration
import EnumBindings.Limits

/-!
# Fragments of generated code

A binding contributes one fragment for its declaration and one for each conversion. A
fragment tells which names it introduces, whether it needs the helper for global objects and
which numbers are written for it.
-/

namespace EnumBindings

/-- Lines of code with the names that they introduce. -/
structure Fragment where
  symbols : List String
  needsGlobalObject : Bool
  lines : List String
  /-- The numbers that are written in the lines, or in what is reported about them. -/
  numbers : List Int
  deriving DecidableEq, Repr

/-- Whether all numbers may be written. -/
def Fragment.fits (limits : Limits) (fragment : Fragment) : Bool :=
  fragment.numbers.all limits.allowsNumber

/-- The fragment of a declaration. -/
def Script.Declaration.fragment (declaration : Script.Declaration) : Fragment where
  symbols := declaration.name :: declaration.scope.toList
  needsGlobalObject := false
  lines := declaration.lines
  numbers := declaration.numbers

/-- The fragment of a conversion. -/
def Script.Conversion.fragment (conversion : Script.Conversion) : Fragment where
  symbols := [conversion.name]
  needsGlobalObject := conversion.refuses
  lines := conversion.lines
  numbers := conversion.numbers

/-- The code of a sentinel whose part a declared value takes. It is reported when the declaration
is written. -/
def Binding.reportedCode? (binding : Binding) : Option Int :=
  if binding.sentinel.isTaken then some binding.options.sentinelCode else none

/-- The fragment of the declaration of a binding. -/
def Binding.declarationFragment (binding : Binding) : Fragment :=
  let fragment := binding.declaration.fragment
  { fragment with numbers := binding.reportedCode?.toList ++ fragment.numbers }

/-- All fragments of a binding in order. -/
def Binding.fragments (binding : Binding) : List Fragment :=
  binding.declarationFragment :: binding.conversions.map (·.fragment)

/-- Whether all numbers of a binding may be written. -/
def Binding.fits (limits : Limits) (binding : Binding) : Bool :=
  binding.fragments.all (·.fits limits)

end EnumBindings
