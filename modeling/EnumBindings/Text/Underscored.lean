import EnumBindings.Text.Case
import EnumBindings.Text.Numeral

/-!
# Names in words

A name in capitals and small letters is written with an underscore between its words.
Words are found in two passes: the first sets the last capital of a run off from the
others when a small letter follows it, the second sets a capital off from a small letter
or digit before it.
-/

namespace EnumBindings.Text

/-- The capitals A to Z. -/
def isCapital (c : Char) : Bool :=
  decide (0x41 ≤ c.toNat) && decide (c.toNat ≤ 0x5A)

/-- The small letters a to z. -/
def isSmall (c : Char) : Bool :=
  decide (0x61 ≤ c.toNat) && decide (c.toNat ≤ 0x7A)

/-- Sets the last of several capitals off from the others when a small letter follows
it. The run of capitals read so far comes newest first. -/
def separateAcronyms (run : List Char) : List Char → List Char
  | [] => run.reverse
  | c :: text =>
    if isCapital c then separateAcronyms (c :: run) text
    else
      match isSmall c, run with
      | true, last :: before :: run =>
        (before :: run).reverse ++ '_' :: last :: c :: separateAcronyms [] text
      | _, run => run.reverse ++ c :: separateAcronyms [] text

/-- Sets a capital off from the small letter or digit before it. -/
def separateHumps : List Char → List Char
  | [] => []
  | [c] => [c]
  | c :: next :: text =>
    if (isSmall c || isDigit c) && isCapital next then c :: '_' :: separateHumps (next :: text)
    else c :: separateHumps (next :: text)

/-- A hyphen becomes an underscore. -/
def joinHyphens (text : List Char) : List Char :=
  text.map fun c => if c = '-' then '_' else c

/-- A name in lower case with an underscore between its words. -/
def underscored (name : List Char) : List Char :=
  lower (joinHyphens (separateHumps (separateAcronyms [] name)))

/-- A name in upper case with an underscore between its words. -/
def screaming (name : List Char) : List Char :=
  upper (underscored name)

end EnumBindings.Text
