import EnumBindings.Script.Expression
import EnumBindings.Script.Lines

/-!
# Conversion functions

A conversion is a function with one parameter and a single switch on it. An arm of the
switch has labels that all lead to one statement.
-/

namespace EnumBindings.Script

/-- The name of the helper by which generated code reaches global objects. -/
def globalObjectName : String := "tsProtoGlobalThis"

/-- A label of an arm. -/
inductive Label where
  | value (expression : Expression)
  /-- The label that everything else matches. -/
  | otherwise
  deriving DecidableEq, Repr

/-- What an arm does. -/
inductive Statement where
  | give (expression : Expression)
  /-- Fails because the input is no member of the named enumeration. -/
  | refuse (enumName : String)
  deriving DecidableEq, Repr

/-- An arm of a switch. -/
structure Arm where
  labels : List Label
  statement : Statement
  deriving DecidableEq, Repr

/-- A function that consists of a switch on its parameter. -/
structure Conversion where
  name : String
  parameterType : String
  resultType : String
  arms : List Arm
  deriving DecidableEq, Repr

/-- The line of a label. -/
def Label.line : Label → String
  | .value expression => "case " ++ expression.code ++ ":"
  | .otherwise => "default:"

/-- The line of a statement. -/
def Statement.line : Statement → String
  | .give expression => "return " ++ expression.code ++ ";"
  | .refuse enumName =>
    "throw new " ++ globalObjectName ++
      ".Error(\"Unrecognized enum value \" + object + \" for enum " ++ enumName ++ "\");"

/-- Statements that need the helper for global objects. -/
def Statement.refuses : Statement → Bool
  | .give _ => false
  | .refuse _ => true

/-- The numbers in a label. -/
def Label.numbers : Label → List Int
  | .value expression => expression.numbers
  | .otherwise => []

/-- The numbers in a statement. -/
def Statement.numbers : Statement → List Int
  | .give expression => expression.numbers
  | .refuse _ => []

/-- The numbers in an arm. -/
def Arm.numbers (arm : Arm) : List Int :=
  arm.labels.flatMap Label.numbers ++ arm.statement.numbers

/-- The lines of an arm. -/
def Arm.lines (arm : Arm) : List String :=
  arm.labels.map Label.line ++ [indentUnit ++ arm.statement.line]

namespace Conversion

/-- The first line of a conversion. -/
def opening (conversion : Conversion) : String :=
  "export function " ++ conversion.name ++ "(object: " ++ conversion.parameterType ++ "): " ++
    conversion.resultType ++ " \x7b"

/-- The lines of a conversion. -/
def lines (conversion : Conversion) : List String :=
  [conversion.opening, indentUnit ++ "switch (object) \x7b"] ++
    indent 2 (conversion.arms.flatMap Arm.lines) ++ [indentUnit ++ "\x7d", "\x7d"]

/-- The numbers in a conversion. -/
def numbers (conversion : Conversion) : List Int :=
  conversion.arms.flatMap Arm.numbers

/-- Whether some input is refused. -/
def refuses (conversion : Conversion) : Bool :=
  conversion.arms.any (·.statement.refuses)

end Conversion

end EnumBindings.Script
