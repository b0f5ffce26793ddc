import EnumBindings.Output.Helper
import EnumBindings.Schema.Error

/-!
# Errors in generation

Why no binding can be generated for an enumeration, and why the writing of code may end.
-/

namespace EnumBindings

/-- What prevents a binding. -/
inductive GenerationFault where
  | emptyName
  /-- A fault described in words. -/
  | other (summary : String)
  deriving DecidableEq, Repr

/-- The wording of a fault. -/
def GenerationFault.message : GenerationFault → String
  | .emptyName => "Enum descriptor has an empty name"
  | .other summary => summary

/-- A fault with the own name of the enumeration, if it has one. -/
structure GenerationError where
  fault : GenerationFault
  enumName : Option String := none
  deriving DecidableEq, Repr

/-- The wording of an error. -/
def GenerationError.message (error : GenerationError) : String :=
  error.fault.message ++ detail " for enum" error.enumName

/-- Why the writing of code ends. -/
inductive WriteError where
  | unknownHelper (error : UnknownHelper)
  | refused (error : GenerationError)
  /-- A number has too many digits to be written. -/
  | longNumber
  deriving DecidableEq, Repr

/-- The wording of an error. -/
def WriteError.message : WriteError → String
  | .unknownHelper error => error.message
  | .refused error => error.message
  | .longNumber =>
    "Exceeds the limit (4300 digits) for integer string conversion; " ++
      "use sys.set_int_max_str_digits() to increase the limit"

end EnumBindings
