/-!
# The common margin of lines

Lines that all start with the same spaces and tabs lose them together. Empty lines
have no margin of their own.
-/

namespace EnumBindings.Text

/-- The longest text that both texts start with. -/
def commonStart : List Char → List Char → List Char
  | a :: left, b :: right => if a = b then a :: commonStart left right else []
  | _, _ => []

/-- The spaces and tabs in front of a line. -/
def leading (line : List Char) : List Char :=
  line.takeWhile fun c => c = ' ' || c = '\t'

/-- The longest run of spaces and tabs that every line with text starts with. -/
def margin (lines : List (List Char)) : List Char :=
  match lines.filter (!·.isEmpty) with
  | [] => []
  | first :: rest =>
    rest.foldl (fun shared line => commonStart shared (leading line)) (leading first)

/-- Takes the common margin off every line with text. The lines have no white space
at their ends, so a line without text is empty. -/
def dedent (lines : List (List Char)) : List (List Char) :=
  let width := (margin lines).length
  lines.map fun line => if line.isEmpty then line else line.drop width

end EnumBindings.Text
