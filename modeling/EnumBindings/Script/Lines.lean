/-!
# Lines of generated code

Code is a list of lines. Indentation goes before every line that is not empty.
-/

namespace EnumBindings.Script

/-- The white space of one level of indentation. -/
def indentUnit : String := "  "

/-- The white space of so many levels; there are none below zero. -/
def indentation (level : Int) : String :=
  String.join (List.replicate level.toNat indentUnit)

/-- Indents a line unless it is empty. -/
def indentLine (level : Int) (line : String) : String :=
  if line.isEmpty then line else indentation level ++ line

/-- Indents every line that is not empty. -/
def indent (level : Int) (lines : List String) : List String :=
  lines.map (indentLine level)

/-- One text of several lines. -/
def joinLines (lines : List String) : String :=
  "\n".intercalate lines

end EnumBindings.Script
