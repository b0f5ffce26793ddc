import EnumBindings.Text.CodePoints

/-!
# Lines of a text

A text is cut after every line break, of which there are ten characters and one
pair. A break at the very end opens no further line.
-/

namespace EnumBindings.Text

/-- Characters that end a line. -/
def isLineBreak (c : Char) : Bool :=
  inRanges c.toNat [(0xA, 0xD), (0x1C, 0x1E), (0x85, 0x85), (0x2028, 0x2029)]

/-- The lines of a text without their breaks. A carriage return and the line feed
behind it are one break. -/
def lines : List Char → List (List Char)
  | [] => []
  | '\r' :: '\n' :: text => [] :: lines text
  | c :: text =>
    if isLineBreak c then [] :: lines text
    else
      match lines text with
      | [] => [[c]]
      | line :: rest => (c :: line) :: rest

/-- Every carriage return, alone or before a line feed, becomes a line feed. -/
def unifyLineBreaks : List Char → List Char
  | [] => []
  | '\r' :: '\n' :: text => '\n' :: unifyLineBreaks text
  | '\r' :: text => '\n' :: unifyLineBreaks text
  | c :: text => c :: unifyLineBreaks text

end EnumBindings.Text
