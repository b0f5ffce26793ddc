import EnumBindings.Text.CodePoints

/-!
# Blank characters

The characters that count as white space, and the removal of them from the ends
of a text.
-/

namespace EnumBindings.Text

/-- Code points of white space: the separators of Unicode and the controls that
separate lines, files, groups and records. -/
def blankRanges : List (Nat × Nat) := [
  (0x9, 0xD), (0x1C, 0x20), (0x85, 0x85), (0xA0, 0xA0), (0x1680, 0x1680), (0x2000, 0x200A),
  (0x2028, 0x2029), (0x202F, 0x202F), (0x205F, 0x205F), (0x3000, 0x3000)]

/-- White space of any kind. -/
def isBlank (c : Char) : Bool :=
  inRanges c.toNat blankRanges

/-- Drops the white space in front. -/
def trimStart (text : List Char) : List Char :=
  text.dropWhile isBlank

/-- Drops the white space at the end. -/
def trimEnd (text : List Char) : List Char :=
  (text.reverse.dropWhile isBlank).reverse

/-- Drops the white space at both ends. -/
def trim (text : List Char) : List Char :=
  trimEnd (trimStart text)

end EnumBindings.Text
