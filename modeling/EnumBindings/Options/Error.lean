import EnumBindings.Text.Quoted

/-!
# Errors in options

Why an option is refused. The message shows the value that was given for it.
-/

namespace EnumBindings

/-- What is wrong with an option. -/
inductive OptionsFault where
  | unknownOption
  | notBoolean
  | notJsonMethods
  | notInteger
  | notIdentifier
  /-- A fault described in words. -/
  | other (summary : String)
  deriving DecidableEq, Repr

/-- The wording of a fault. -/
def OptionsFault.message : OptionsFault → String
  | .unknownOption => "Unknown option"
  | .notBoolean => "Expected a boolean"
  | .notJsonMethods => "Expected one of true, false, from-only, to-only"
  | .notInteger => "Expected an integer"
  | .notIdentifier => "Expected an identifier"
  | .other summary => summary

/-- A fault with the option as it was spelled and the value given for it. -/
structure OptionsError where
  fault : OptionsFault
  option : Option String := none
  value : Option String := none
  deriving DecidableEq, Repr

namespace OptionsError

/-- The longest value that a message shows whole. -/
def shownLength : Nat := 60

/-- A value as far as a message shows it: whole, or its beginning and three dots. -/
def shownValue (value : List Char) : List Char :=
  if shownLength < value.length then value.take (shownLength - 3) ++ ['.', '.', '.'] else value

/-- The fault and the option of an error, in words. -/
def subject (error : OptionsError) : String :=
  error.fault.message ++
    match error.option with
    | none => ""
    | some option => if option.isEmpty then "" else " for option '" ++ option ++ "'"

/-- The wording of an error. -/
def message (error : OptionsError) : String :=
  match error.value with
  | none => error.subject
  | some value =>
    error.subject ++ ": " ++ String.ofList (Text.quoted (shownValue value.toList))

end OptionsError

end EnumBindings
