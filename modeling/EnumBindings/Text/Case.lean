import EnumBindings.Text.CaseTable

/-!
# Upper and lower case

The full case maps, character by character. One character may become several:
a capital I with a dot becomes a small i and a combining dot.
-/

namespace EnumBindings.Text

/-- The image of a code point that lies in a run. -/
def CaseRun.image? (run : CaseRun) (code : Nat) : Option Nat :=
  if run.first ≤ code ∧ code ≤ run.last ∧ (code - run.first) % run.step = 0 then
    some (run.target + (code - run.first))
  else none

/-- The image of a character under a case map given by its runs and expansions. -/
def changeCase (runs : List CaseRun) (expansions : List (Nat × List Nat)) (c : Char) : List Char :=
  match runs.findSome? (·.image? c.toNat) with
  | some code => [Char.ofNat code]
  | none =>
    match expansions.lookup c.toNat with
    | some codes => codes.map Char.ofNat
    | none => [c]

/-- The lower-case form of a character. -/
def lowerChar (c : Char) : List Char :=
  changeCase lowerRuns lowerExpansions c

/-- The upper-case form of a character. -/
def upperChar (c : Char) : List Char :=
  changeCase upperRuns upperExpansions c

/-- The lower-case form of a text. -/
def lower (text : List Char) : List Char :=
  text.flatMap lowerChar

/-- The upper-case form of a text. -/
def upper (text : List Char) : List Char :=
  text.flatMap upperChar

end EnumBindings.Text
