/-!
# Faults of a JSON text

What can be wrong with a text, the wording of it, and the place where it is wrong.
-/

namespace EnumBindings

/-- What a text lacks or holds too much. -/
inductive JsonFault where
  | byteOrderMark
  | value
  | propertyName
  | colon
  | comma
  | extraData
  | unterminatedText
  | controlCharacter
  | escape
  | unicodeEscape
  deriving DecidableEq, Repr

/-- The wording of a fault. -/
def JsonFault.message : JsonFault → String
  | .byteOrderMark => "Unexpected UTF-8 BOM (decode using utf-8-sig)"
  | .value => "Expecting value"
  | .propertyName => "Expecting property name enclosed in double quotes"
  | .colon => "Expecting ':' delimiter"
  | .comma => "Expecting ',' delimiter"
  | .extraData => "Extra data"
  | .unterminatedText => "Unterminated string starting at"
  | .controlCharacter => "Invalid control character at"
  | .escape => "Invalid \\escape"
  | .unicodeEscape => "Invalid \\uXXXX escape"

/-- A place in a text. Lines and columns count from one, the offset from zero, and only
line feeds end a line. -/
structure Place where
  line : Nat
  column : Nat
  offset : Nat
  deriving DecidableEq, Repr

/-- The place of an offset in a text. -/
def Place.ofOffset (text : List Char) (offset : Nat) : Place where
  line := 1 + (text.take offset).count '\n'
  column := 1 + ((text.take offset).reverse.takeWhile (· ≠ '\n')).length
  offset := offset

/-- The wording of a place. -/
def Place.message (place : Place) : String :=
  "line " ++ toString place.line ++ " column " ++ toString place.column ++
    " (char " ++ toString place.offset ++ ")"

/-- What may hold other values. -/
inductive Container where
  | list
  | object
  deriving DecidableEq, Repr

/-- The word for what holds other values. -/
def Container.name : Container → String
  | .list => "array"
  | .object => "object"

/-- Why no value is read from a text: it is malformed, it holds an integer of more digits than are
read, or a list or an object stands deeper in it than the run allows. -/
inductive ReadError where
  | malformed (fault : JsonFault) (offset : Nat)
  | longInteger (digits : Nat)
  | tooDeep (container : Container)
  deriving DecidableEq, Repr

end EnumBindings
