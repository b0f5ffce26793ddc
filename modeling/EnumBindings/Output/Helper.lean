import EnumBindings.Script.Lines
import EnumBindings.Script.Switch

/-!
# Helpers

Code that several fragments share and that stands once at the head of a module. The only
helper finds the global object, so that a failure can be raised even where the name of the
error class is hidden by an enumeration.
-/

namespace EnumBindings

/-- Shared code. -/
inductive Helper where
  | globalObject
  deriving DecidableEq, Repr

/-- The name under which the code of a helper is used. -/
def Helper.name : Helper → String
  | .globalObject => Script.globalObjectName

/-- The helper with a name. -/
def Helper.ofName? (name : String) : Option Helper :=
  if name = Helper.globalObject.name then some .globalObject else none

/-- The test for one place where the global object may be found. -/
def globalObjectTest (place : String) : List String :=
  ["  if (typeof " ++ place ++ " !== \"undefined\") \x7b", "    return " ++ place ++ ";", "  \x7d"]

/-- The lines of a helper. -/
def Helper.lines : Helper → List String
  | .globalObject =>
    ["declare const self: any | undefined;", "declare const window: any | undefined;",
      "declare const global: any | undefined;",
      "const " ++ Script.globalObjectName ++ ": any = (() => \x7b"] ++
    globalObjectTest "globalThis" ++ globalObjectTest "self" ++ globalObjectTest "window" ++
    globalObjectTest "global" ++
    ["  throw \"Unable to locate global object\";", "\x7d)();"]

/-- The code of a helper. -/
def Helper.code (helper : Helper) : String :=
  Script.joinLines helper.lines

/-- A name that is no helper's. -/
structure UnknownHelper where
  name : String
  deriving DecidableEq, Repr

/-- The wording of the error. -/
def UnknownHelper.message (error : UnknownHelper) : String :=
  "Unknown helper '" ++ error.name ++ "'"

end EnumBindings
