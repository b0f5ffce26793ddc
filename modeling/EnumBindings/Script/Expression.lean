/-!
# Expressions of generated code

The few expressions that bindings are made of.
-/

namespace EnumBindings.Script

/-- A number, a text or a member of an enumeration. -/
inductive Expression where
  | number (value : Int)
  | text (content : String)
  | member (reference name : String)
  deriving DecidableEq, Repr

/-- The spelling of an expression. A text stands between double quotes as it is. -/
def Expression.code : Expression → String
  | .number value => toString value
  | .text content => "\"" ++ content ++ "\""
  | .member reference name => reference ++ "." ++ name

/-- The numbers in an expression. -/
def Expression.numbers : Expression → List Int
  | .number value => [value]
  | .text _ => []
  | .member _ _ => []

end EnumBindings.Script
