import EnumBindings.Comment.Cleaning
import EnumBindings.Text.Pieces

/-!
# Documentation blocks

A cleaned comment and a mark of deprecation become one block comment: on a single line if
it has no more, with a star before each line otherwise.
-/

namespace EnumBindings.Comment

/-- What a block says, line by line. The lead goes before the first line of the comment. -/
def content (comment : Option String) (deprecated : Bool) (lead : String) : List String :=
  let cleaned := (clean comment).toList
  let said :=
    if cleaned.isEmpty then []
    else
      match Text.pieces '\n' cleaned with
      | [] => []
      | first :: rest => (lead ++ String.ofList first) :: rest.map String.ofList
  said ++ if deprecated then ["@deprecated"] else []

/-- A line of a block of several lines. -/
def starred (line : String) : String :=
  String.ofList (Text.trimEnd (" * " ++ line).toList)

/-- Puts what a block says between comment marks. -/
def enclose : List String → List String
  | [] => []
  | [line] => ["/** " ++ line ++ " */"]
  | lines => "/**" :: lines.map starred ++ [" */"]

/-- The block of a comment. -/
def block (comment : Option String) (deprecated : Bool) (lead : String) : List String :=
  enclose (content comment deprecated lead)

end EnumBindings.Comment
