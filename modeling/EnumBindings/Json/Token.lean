import EnumBindings.Json.Value
import EnumBindings.Json.Fault
import EnumBindings.Text.Numeral

/-!
# Tokens of a JSON text

A text is cut into brackets, separators, quoted texts and plain values, each with its
offset. A piece that is none of these ends the list as a broken token. Whether a token is
due where it stands is not asked here.
-/

namespace EnumBindings

/-- A piece of text that is no token. -/
inductive Broken where
  /-- No token begins like this. -/
  | unknown
  /-- A quoted text with a fault that many characters behind its opening quote. -/
  | text (fault : JsonFault) (ahead : Nat)
  /-- An integer of too many digits. -/
  | longInteger (digits : Nat)

/-- The pieces of a JSON text. -/
inductive Token where
  | openList
  | closeList
  | openObject
  | closeObject
  | comma
  | colon
  | quoted (content : String)
  /-- A value without parts: a number or one of the fixed words. -/
  | plain (value : Json)
  | broken (cause : Broken)

namespace Token

/-- What a token opens, if it opens anything. -/
def container : Token → Container
  | .openObject => .object
  | _ => .list

/-- White space between tokens. -/
def isSpace (c : Char) : Bool :=
  c = ' ' || c = '\t' || c = '\n' || c = '\r'

/-- The value of a hexadecimal digit. -/
def hexValue? (c : Char) : Option Nat :=
  let code := c.toNat
  if 0x30 ≤ code ∧ code ≤ 0x39 then some (code - 0x30)
  else if 0x41 ≤ code ∧ code ≤ 0x46 then some (code - 0x37)
  else if 0x61 ≤ code ∧ code ≤ 0x66 then some (code - 0x57)
  else none

/-- The value of four hexadecimal digits. -/
def hexValue4? (a b c d : Char) : Option Nat := do
  let a ← hexValue? a
  let b ← hexValue? b
  let c ← hexValue? c
  let d ← hexValue? d
  return ((a * 16 + b) * 16 + c) * 16 + d

/-- The first half of a surrogate pair. -/
def isHighSurrogate (code : Nat) : Bool :=
  decide (0xD800 ≤ code) && decide (code ≤ 0xDBFF)

/-- The second half of a surrogate pair. -/
def isLowSurrogate (code : Nat) : Bool :=
  decide (0xDC00 ≤ code) && decide (code ≤ 0xDFFF)

/-- The character with a code, or the replacement character for half a pair. -/
def charOfCode (code : Nat) : Char :=
  if isHighSurrogate code || isLowSurrogate code then '\uFFFD' else Char.ofNat code

/-- The character of a surrogate pair. -/
def charOfPair (high low : Nat) : Char :=
  Char.ofNat (0x10000 + (high - 0xD800) * 0x400 + (low - 0xDC00))

/-- The characters that a backslash and one character stand for. -/
def shortEscapes : List (Char × Char) := [
  ('"', '"'), ('\\', '\\'), ('/', '/'), ('b', '\x08'), ('f', '\x0c'), ('n', '\n'), ('r', '\r'),
  ('t', '\t')]

/-- What four hexadecimal digits stand for, given the text behind them, and how long the
whole escape is. A first half joins with a second half that is escaped in turn, provided
some text follows it. -/
def readCode (code : Nat) : List Char → Except (JsonFault × Nat) (Char × Nat)
  | '\\' :: 'u' :: a :: b :: c :: d :: _ :: _ =>
    if isHighSurrogate code then
      match hexValue4? a b c d with
      | none => .error (.unicodeEscape, 7)
      | some low =>
        if isLowSurrogate low then .ok (charOfPair code low, 12) else .ok (charOfCode code, 6)
    else .ok (charOfCode code, 6)
  | _ => .ok (charOfCode code, 6)

/-- The character behind a backslash escape and the length of the escape. Faults are
counted from the backslash. -/
def readEscape : List Char → Except (JsonFault × Nat) (Char × Nat)
  | [] => .error (.unterminatedText, 0)
  | 'u' :: a :: b :: c :: d :: e :: text =>
    match hexValue4? a b c d with
    | none => .error (.unicodeEscape, 1)
    | some code => readCode code (e :: text)
  | 'u' :: _ => .error (.unicodeEscape, 1)
  | c :: _ =>
    match shortEscapes.lookup c with
    | none => .error (.escape, 0)
    | some char => .ok (char, 2)

/-- The first character of a text within quotes and the length of its spelling. -/
def readChar : List Char → Except (JsonFault × Nat) (Char × Nat)
  | [] => .error (.unterminatedText, 0)
  | c :: text =>
    if c = '\\' then readEscape text
    else if c.toNat ≤ 0x1F then .error (.controlCharacter, 0)
    else .ok (c, 1)

/-- Reads up to the closing quote. The content so far comes newest first, with the length
read so far and the number of characters still to be passed over. -/
def readText (content : List Char) (length : Nat) : Nat → List Char → Token × Nat
  | _, [] => (.broken (.text .unterminatedText 0), length)
  | skip + 1, _ :: text => readText content (length + 1) skip text
  | 0, c :: text =>
    if c = '"' then (.quoted (String.ofList content.reverse), length + 1)
    else
      match readChar (c :: text) with
      | .ok (char, size) => readText (char :: content) (length + 1) (size - 1) text
      | .error (.unterminatedText, _) => (.broken (.text .unterminatedText 0), length)
      | .error (fault, ahead) => (.broken (.text fault (length + ahead)), length)

/-- The digits zero to nine. -/
def isDecimalDigit (c : Char) : Bool :=
  decide (0x30 ≤ c.toNat) && decide (c.toNat ≤ 0x39)

/-- The number with the given digits. -/
def valueOfDigits (digits : List Char) : Nat :=
  Text.ofDigits (digits.map (·.toNat - 0x30))

/-- The digits before the point. Nothing follows a leading zero. -/
def wholeDigits : List Char → List Char
  | '0' :: _ => ['0']
  | text => text.takeWhile isDecimalDigit

/-- The digits behind a point. -/
def fractionDigits : List Char → List Char
  | '.' :: text => text.takeWhile isDecimalDigit
  | _ => []

/-- The exponent with its sign, and the length of its spelling. An exponent has digits. -/
def readExponent? : List Char → Option (Int × Nat)
  | [] => none
  | mark :: text =>
    if mark = 'e' ∨ mark = 'E' then
      let signed := text.head? = some '-' || text.head? = some '+'
      let digits := (if signed then text.drop 1 else text).takeWhile isDecimalDigit
      let value := valueOfDigits digits
      if digits.isEmpty then none
      else
        some (if text.head? = some '-' then -(value : Int) else value,
          1 + (if signed then 1 else 0) + digits.length)
    else none

/-- Reads a number, as long as possible. -/
def readNumber (text : List Char) : Token × Nat :=
  let negative := text.head? = some '-'
  let sign := if negative then 1 else 0
  let whole := wholeDigits (text.drop sign)
  if whole.isEmpty then (.broken .unknown, 0)
  else
    let length := sign + whole.length
    let fraction := fractionDigits (text.drop length)
    let length := if fraction.isEmpty then length else length + 1 + fraction.length
    match readExponent? (text.drop length), fraction with
    | none, [] =>
      if Text.digitLimit < whole.length then (.broken (.longInteger whole.length), length)
      else
        let value := valueOfDigits whole
        (.plain (.int (if negative then -(value : Int) else value)), length)
    | some (exponent, size), fraction =>
      (.plain (.decimal (.finite negative (valueOfDigits (whole ++ fraction))
        (exponent - fraction.length))), length + size)
    | none, fraction =>
      (.plain (.decimal (.finite negative (valueOfDigits (whole ++ fraction))
        (-fraction.length))), length)

/-- The fixed words and their values. -/
def words : List (List Char × Json) := [
  (['n', 'u', 'l', 'l'], .null),
  (['t', 'r', 'u', 'e'], .bool true),
  (['f', 'a', 'l', 's', 'e'], .bool false),
  (['N', 'a', 'N'], .decimal .undefined),
  (['I', 'n', 'f', 'i', 'n', 'i', 't', 'y'], .decimal (.infinite false)),
  (['-', 'I', 'n', 'f', 'i', 'n', 'i', 't', 'y'], .decimal (.infinite true))]

/-- The first token of a text without leading white space, and its length. -/
def read (text : List Char) : Token × Nat :=
  match text with
  | '"' :: rest => readText [] 1 0 rest
  | '[' :: _ => (.openList, 1)
  | ']' :: _ => (.closeList, 1)
  | '\x7b' :: _ => (.openObject, 1)
  | '\x7d' :: _ => (.closeObject, 1)
  | ',' :: _ => (.comma, 1)
  | ':' :: _ => (.colon, 1)
  | _ =>
    match words.find? (·.1.isPrefixOf text) with
    | some (word, value) => (.plain value, word.length)
    | none => readNumber text

/-- The tokens of a text with their offsets, up to the first broken one. The text begins at
the given offset, and some characters of it are still to be passed over. -/
def scan (offset : Nat) : Nat → List Char → List (Nat × Token)
  | _, [] => []
  | skip + 1, _ :: text => scan (offset + 1) skip text
  | 0, c :: text =>
    if isSpace c then scan (offset + 1) 0 text
    else
      match read (c :: text) with
      | (.broken cause, _) => [(offset, .broken cause)]
      | (token, length) => (offset, token) :: scan (offset + 1) (length - 1) text

end Token

end EnumBindings
