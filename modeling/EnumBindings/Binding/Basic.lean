import EnumBindings.Naming.Scope
import EnumBindings.Naming.Sentinel
import EnumBindings.Script.Representation

/-!
# The binding of one enumeration

An enumeration together with the options of the run. Everything that its declaration and
its conversions share is determined here.
-/

namespace EnumBindings

/-- An enumeration to be bound under given options. -/
structure Binding where
  enum : EnumDescriptor
  options : Options
  deriving DecidableEq, Repr

namespace Binding

/-- The members in the order of the schema. -/
def members (binding : Binding) : List Member :=
  EnumBindings.members binding.options binding.enum

/-- The scope of the declaration, if there is one. -/
def scope (binding : Binding) : Option Scope :=
  Scope.split? binding.options.nestedEnumsAsNamespaces binding.enum.fullName

/-- The name that the declaration introduces. -/
def declaredName (binding : Binding) : String :=
  EnumBindings.declaredName binding.enum.fullName binding.scope

/-- The expression for the enumeration. -/
def reference (binding : Binding) : String :=
  EnumBindings.reference binding.enum.fullName binding.scope

/-- The representation of the enumeration. -/
def representation (binding : Binding) : Script.Representation :=
  .ofOptions binding.options

/-- The sentinel of the enumeration. -/
def sentinel (binding : Binding) : Sentinel :=
  .find binding.options.sentinelCode binding.members

/-- The name of a conversion, which ends in what it converts. -/
def functionName (binding : Binding) (ending : String) : String :=
  uncapitalize binding.enum.fullName ++ ending

end Binding

end EnumBindings
