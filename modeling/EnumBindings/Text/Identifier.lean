import EnumBindings.Text.CodePoints
import EnumBindings.Text.IdentifierTable

/-!
# Identifiers

A name is an identifier when a letter or underscore is followed by letters, marks,
digits and underscores only. The letters of all scripts are admitted.
-/

namespace EnumBindings.Text

/-- Characters that may begin an identifier. -/
def isIdentifierStart (c : Char) : Bool :=
  inRanges c.toNat identifierStartRanges

/-- Characters that may stand behind the first of an identifier. -/
def isIdentifierPart (c : Char) : Bool :=
  isIdentifierStart c || inRanges c.toNat identifierRestRanges

/-- A text that may be used as a name. -/
def isIdentifier : List Char → Bool
  | [] => false
  | c :: rest => isIdentifierStart c && rest.all isIdentifierPart

end EnumBindings.Text
