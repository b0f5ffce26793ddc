import EnumBindings.Text.Blank
import EnumBindings.Text.Lines
import EnumBindings.Text.Margin

/-!
# Cleaned comments

A comment loses the blank lines at its ends, the white space at the end of its lines and
the margin that its lines share. What would close a block comment is taken apart.
-/

namespace EnumBindings.Comment

/-- Drops the empty lines at both ends. -/
def withoutEmptyEnds (lines : List (List Char)) : List (List Char) :=
  ((lines.dropWhile (·.isEmpty)).reverse.dropWhile (·.isEmpty)).reverse

/-- Sets a slash off from a star before it. -/
def partClosers : List Char → List Char
  | [] => []
  | '*' :: '/' :: text => '*' :: ' ' :: '/' :: partClosers text
  | c :: text => c :: partClosers text

/-- The lines of a comment without white space at their ends, without their common margin
and without empty lines at the ends. -/
def cleanLines (comment : List Char) : List (List Char) :=
  Text.dedent (withoutEmptyEnds ((Text.lines comment).map Text.trimEnd))

/-- The cleaned text of a comment. -/
def cleanText (comment : List Char) : List Char :=
  partClosers (Text.trim (['\n'].intercalate (cleanLines comment)))

/-- The cleaned text of a comment, which is empty where there is none. -/
def clean : Option String → String
  | none => ""
  | some comment => String.ofList (cleanText comment.toList)

end EnumBindings.Comment
