import EnumBindings.Text.CodePoints
import EnumBindings.Text.PrintableTable

/-!
# Quoted literals

A text is shown between quotes on one line: the quote in use and the backslash are
escaped, and so is every character that has no visible form. Double quotes are used
only for a text with single quotes and no double ones.
-/

namespace EnumBindings.Text

/-- Characters that are shown as they are. -/
def isPrintable (c : Char) : Bool :=
  inRanges c.toNat printableRanges

/-- The single and the double quote. -/
def singleQuote : Char := '\x27'

@[inherit_doc singleQuote] def doubleQuote : Char := '\x22'

/-- The quote in which a text is shown. -/
def quoteOf (text : List Char) : Char :=
  if text.contains singleQuote && !text.contains doubleQuote then doubleQuote else singleQuote

/-- A hexadecimal digit in lower case. -/
def hexDigit (value : Nat) : Char :=
  if value < 10 then Char.ofNat (0x30 + value) else Char.ofNat (0x57 + value)

/-- The last `width` hexadecimal digits of a number. -/
def hexDigits : Nat → Nat → List Char
  | 0, _ => []
  | width + 1, number => hexDigits width (number / 16) ++ [hexDigit (number % 16)]

/-- A character inside a literal with the given quote. -/
def escapeChar (quote c : Char) : List Char :=
  if c = quote ∨ c = '\\' then ['\\', c]
  else if c = '\n' then ['\\', 'n']
  else if c = '\r' then ['\\', 'r']
  else if c = '\t' then ['\\', 't']
  else if isPrintable c then [c]
  else if c.toNat ≤ 0xFF then '\\' :: 'x' :: hexDigits 2 c.toNat
  else if c.toNat ≤ 0xFFFF then '\\' :: 'u' :: hexDigits 4 c.toNat
  else '\\' :: 'U' :: hexDigits 8 c.toNat

/-- The literal that shows a text. -/
def quoted (text : List Char) : List Char :=
  let quote := quoteOf text
  quote :: text.flatMap (escapeChar quote) ++ [quote]

end EnumBindings.Text

namespace EnumBindings

/-- The literal that shows a string. -/
def showQuoted (s : String) : String :=
  String.ofList (Text.quoted s.toList)

/-- A list of literals between brackets. -/
def showQuotedList (items : List String) : String :=
  "[" ++ ", ".intercalate (items.map showQuoted) ++ "]"

end EnumBindings
