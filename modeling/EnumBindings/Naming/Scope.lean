import EnumBindings.Text.Pieces

/-!
# Scopes

A flattened name is split at its last underscore into a scope and a name within it.
-/

namespace EnumBindings

/-- A name within a scope. -/
structure Scope where
  enclosing : String
  localName : String
  deriving DecidableEq, Repr

/-- Splits a name when nesting is asked for and the name has an underscore. -/
def Scope.split? (nested : Bool) (fullName : String) : Option Scope :=
  if nested then
    (Text.cutAtLast? '_' fullName.toList).map fun (before, behind) =>
      ⟨String.ofList before, String.ofList behind⟩
  else none

/-- The expression for a name within a scope. -/
def Scope.reference (scope : Scope) : String :=
  scope.enclosing ++ "." ++ scope.localName

/-- The name by which a declaration introduces an enumeration. -/
def declaredName (fullName : String) : Option Scope → String
  | none => fullName
  | some scope => scope.localName

/-- The expression by which other code refers to an enumeration. -/
def reference (fullName : String) : Option Scope → String
  | none => fullName
  | some scope => scope.reference

end EnumBindings
