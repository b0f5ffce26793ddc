import EnumBindings.Json.Value
import Mathlib.Data.Nat.Notation

/-!
# Spellings of a value

The texts that write a value in JSON, apart from any reader. A value has many spellings: there may
be white space between any two tokens, and a character of a text may stand for itself, behind a
backslash, or as one or two code units in hexadecimal digits. Integers are written in digits without
a leading zero.
-/

namespace EnumBindings

/-- White space between tokens. -/
def Gap (text : List Char) : Prop :=
  ∀ c ∈ text, c = ' ' ∨ c = '\t' ∨ c = '\n' ∨ c = '\r'

/-- A hexadecimal digit in either case. -/
def HexDigit (c : Char) (value : Nat) : Prop :=
  value < 16 ∧ (c = value.digitChar ∨ c = value.digitChar.toUpper)

/-- The code that four hexadecimal digits write. -/
inductive HexCode : List Char → Nat → Prop
  | digits {a b c d : Char} {first second third fourth : Nat} :
      HexDigit a first → HexDigit b second → HexDigit c third → HexDigit d fourth →
      HexCode [a, b, c, d] (first * 4096 + second * 256 + third * 16 + fourth)

/-- A character that is written by a backslash and another character. -/
inductive ShortEscape : Char → Char → Prop
  | quote : ShortEscape '"' '"'
  | backslash : ShortEscape '\\' '\\'
  | slash : ShortEscape '/' '/'
  | backspace : ShortEscape '\x08' 'b'
  | formFeed : ShortEscape '\x0c' 'f'
  | lineFeed : ShortEscape '\n' 'n'
  | carriageReturn : ShortEscape '\r' 'r'
  | tab : ShortEscape '\t' 't'

/-- The spellings of a character within quotes. -/
inductive SpellsChar : Char → List Char → Prop
  | raw {c : Char} : c ≠ '"' → c ≠ '\\' → 0x20 ≤ c.toNat → SpellsChar c [c]
  | short {c letter : Char} : ShortEscape c letter → SpellsChar c ['\\', letter]
  | code {c : Char} {digits : List Char} : HexCode digits c.toNat →
      SpellsChar c ('\\' :: 'u' :: digits)
  | pair {c : Char} {first second : List Char} {high low : Nat} :
      HexCode first high → HexCode second low →
      0xD800 ≤ high → high ≤ 0xDBFF → 0xDC00 ≤ low → low ≤ 0xDFFF →
      c.toNat = 0x10000 + (high - 0xD800) * 0x400 + (low - 0xDC00) →
      SpellsChar c ('\\' :: 'u' :: first ++ '\\' :: 'u' :: second)

/-- The spellings of the characters of a text within quotes. -/
inductive SpellsChars : List Char → List Char → Prop
  | nil : SpellsChars [] []
  | cons {c : Char} {chars piece rest : List Char} : SpellsChar c piece →
      SpellsChars chars rest → SpellsChars (c :: chars) (piece ++ rest)

/-- The spellings of a text. -/
inductive SpellsText : String → List Char → Prop
  | quoted {content : String} {inner : List Char} : SpellsChars content.toList inner →
      SpellsText content ('"' :: inner ++ ['"'])

/-- The spellings of an integer of at most 4300 digits. -/
inductive SpellsInteger : Int → List Char → Prop
  | plain {number : Nat} : (Nat.toDigits 10 number).length ≤ 4300 →
      SpellsInteger number (Nat.toDigits 10 number)
  | negated {number : Nat} : (Nat.toDigits 10 number).length ≤ 4300 →
      SpellsInteger (-number) ('-' :: Nat.toDigits 10 number)

mutual

/-- The spellings of a value, from its first token to its last. -/
inductive SpellsValue : Json → List Char → Prop
  | null : SpellsValue .null ['n', 'u', 'l', 'l']
  | yes : SpellsValue (.bool true) ['t', 'r', 'u', 'e']
  | no : SpellsValue (.bool false) ['f', 'a', 'l', 's', 'e']
  | integer {number : Int} {text : List Char} : SpellsInteger number text →
      SpellsValue (.int number) text
  | text {content : String} {text : List Char} : SpellsText content text →
      SpellsValue (.text content) text
  | emptyList {gap : List Char} : Gap gap → SpellsValue (.list []) ('[' :: gap ++ [']'])
  | list {items : List Json} {inner : List Char} : SpellsItems items inner →
      SpellsValue (.list items) ('[' :: inner ++ [']'])
  | emptyObject {gap : List Char} : Gap gap →
      SpellsValue (.object []) ('\x7b' :: gap ++ ['\x7d'])
  | object {fields : List (String × Json)} {inner : List Char} : SpellsFields fields inner →
      SpellsValue (.object fields) ('\x7b' :: inner ++ ['\x7d'])

/-- The spellings of the items of a list, with the white space around each of them. -/
inductive SpellsItems : List Json → List Char → Prop
  | last {item : Json} {before text behind : List Char} :
      Gap before → SpellsValue item text → Gap behind →
      SpellsItems [item] (before ++ text ++ behind)
  | more {item : Json} {items : List Json} {before text behind rest : List Char} :
      Gap before → SpellsValue item text → Gap behind → SpellsItems items rest →
      SpellsItems (item :: items) (before ++ text ++ behind ++ ',' :: rest)

/-- The spellings of the fields of an object, with the white space around each key and value. -/
inductive SpellsFields : List (String × Json) → List Char → Prop
  | last {key : String} {value : Json} {before name middle front text behind : List Char} :
      Gap before → SpellsText key name → Gap middle → Gap front → SpellsValue value text →
      Gap behind →
      SpellsFields [(key, value)] (before ++ name ++ middle ++ ':' :: (front ++ text ++ behind))
  | more {key : String} {value : Json} {fields : List (String × Json)}
      {before name middle front text behind rest : List Char} :
      Gap before → SpellsText key name → Gap middle → Gap front → SpellsValue value text →
      Gap behind → SpellsFields fields rest →
      SpellsFields ((key, value) :: fields)
        (before ++ name ++ middle ++ ':' :: (front ++ text ++ behind ++ ',' :: rest))

end

/-- The texts of a document: a value with white space around it. A document is no text itself, since
a text that is handed in is taken for the spelling of a document. -/
inductive SpellsDocument : Json → List Char → Prop
  | value {document : Json} {before text behind : List Char} :
      (∀ content, document ≠ .text content) → Gap before → SpellsValue document text →
      Gap behind → SpellsDocument document (before ++ text ++ behind)

end EnumBindings
