import EnumBindings.Proofs.Text.Values
import EnumBindings.Script.Expression
import Mathlib.Data.List.Basic

/-!
# Literals of generated code

Generated code computes with integers and texts. A literal is read from its spelling: an integer
from decimal digits, a text from what stands between two quotes. The literal of a value is read as
that value, and the expression for a member is no literal.
-/

namespace EnumBindings.Script

/-- What generated code computes with. Numbers and texts are never equal. -/
inductive Value where
  | number (value : Int)
  | text (content : String)
  deriving DecidableEq, Repr

/-- The number with the given decimal digits, of which there is at least one. -/
def natural? (text : List Char) : Option Nat :=
  if text ≠ [] ∧ text.all Char.isDigit then some (Nat.ofDigitChars 10 text 0) else none

/-- The integer with the given spelling. -/
def integer? : List Char → Option Int
  | '-' :: text => (natural? text).map fun number => -(number : Int)
  | text => (natural? text).map Int.ofNat

/-- Characters that stand for themselves between quotes. -/
def isPlain (c : Char) : Bool :=
  c ≠ '"' && c ≠ '\\' && c ≠ '\n' && c ≠ '\r'

/-- What stands between two quotes, if all of it stands for itself. -/
def quoted? : List Char → Option (List Char)
  | '"' :: text => (text.dropSuffix? ['"']).filter (·.all isPlain)
  | _ => none

/-- The value that a literal spells. -/
def Value.ofLiteral? (code : List Char) : Option Value :=
  match quoted? code with
  | some content => some (.text (String.ofList content))
  | none => (integer? code).map .number

/-- All characters of an identifier may stand in identifiers. -/
theorem isIdentifierPart_of_mem {text : List Char} (htext : Text.isIdentifier text = true) :
    ∀ c ∈ text, Text.isIdentifierPart c = true := by
  intro c hc
  cases text with
  | nil => cases hc
  | cons first rest =>
    obtain ⟨hfirst, hrest⟩ := Bool.and_eq_true_iff.mp htext
    rcases List.mem_cons.mp hc with rfl | hc
    · exact Bool.or_eq_true_iff.mpr (Or.inl hfirst)
    · exact List.all_eq_true.mp hrest c hc

/-- No other characters occur in an identifier. -/
theorem notMem_of_isIdentifier {c : Char} {text : List Char} (hc : Text.isIdentifierPart c = false)
    (htext : Text.isIdentifier text = true) : c ∉ text := by
  intro hmem
  have hpart := isIdentifierPart_of_mem htext c hmem
  rw [hc] at hpart
  cases hpart

/-- An identifier is no empty name. -/
theorem ne_empty_of_isIdentifier {name : String} (hname : Text.isIdentifier name.toList = true) :
    name ≠ "" := by
  rintro rfl
  cases hname

/-- An identifier stands for itself between quotes. -/
theorem all_isPlain_of_isIdentifier {text : List Char} (htext : Text.isIdentifier text = true) :
    text.all isPlain = true := by
  rw [List.all_eq_true]
  intro c hc
  have hne (d : Char) (hd : Text.isIdentifierPart d = false) : c ≠ d := by
    rintro rfl
    exact notMem_of_isIdentifier hd htext hc
  simp [isPlain, hne '"' (by decide), hne '\\' (by decide), hne '\n' (by decide),
    hne '\r' (by decide)]

/-- The digits of a number are read as that number. -/
theorem natural?_toDigits (number : Nat) : natural? (Nat.toDigits 10 number) = some number := by
  have hdigits : (Nat.toDigits 10 number).all Char.isDigit = true :=
    List.all_eq_true.mpr fun _ hc => Nat.isDigit_of_mem_toDigits (by decide) (by decide) hc
  rw [natural?, if_pos ⟨Nat.toDigits_ne_nil, hdigits⟩, Nat.ofDigitChars_ten_toDigits]

/-- A text that is not made of digits alone is no number. -/
theorem natural?_eq_none_of_mem {c : Char} {text : List Char} (hc : c.isDigit = false)
    (hmem : c ∈ text) : natural? text = none := by
  refine if_neg fun h => ?_
  have hdigit := List.all_eq_true.mp h.2 c hmem
  rw [hc] at hdigit
  cases hdigit

/-- The spelling of an integer is read as that integer. -/
theorem integer?_toString (value : Int) : integer? (toString value).toList = some value := by
  cases value with
  | ofNat number =>
    rw [Text.toList_toString_ofNat]
    have hminus : '-' ∉ Nat.toDigits 10 number := fun h =>
      absurd (Nat.isDigit_of_mem_toDigits (by decide) (by decide) h) (by decide)
    unfold integer?
    split
    · next heq => exact absurd (by rw [heq]; exact List.mem_cons_self) hminus
    · rw [natural?_toDigits]
      rfl
  | negSucc number =>
    rw [Text.toList_toString_negSucc, integer?, natural?_toDigits]
    rfl

/-- A text between quotes is read back. -/
theorem quoted?_of_isPlain {content : List Char} (hcontent : content.all isPlain = true) :
    quoted? ('"' :: content ++ ['"']) = some content := by
  have hsuffix : (content ++ ['"']).dropSuffix? ['"'] = some content :=
    List.dropSuffix?_eq_some_iff.mpr ⟨_, rfl, BEq.rfl⟩
  show ((content ++ ['"']).dropSuffix? ['"']).filter (·.all isPlain) = some content
  rw [hsuffix, Option.filter_some, if_pos hcontent]

/-- Only a text that ends in a quote is read as quoted. -/
theorem getLast?_of_quoted? {code content : List Char} (hcode : quoted? code = some content) :
    code.getLast? = some '"' := by
  unfold quoted? at hcode
  split at hcode
  · next text =>
    obtain ⟨hsuffix, _⟩ := Option.filter_eq_some_iff.mp hcode
    obtain ⟨quote, rfl, hquote⟩ := List.dropSuffix?_eq_some_iff.mp hsuffix
    rw [eq_of_beq hquote]
    simp [List.getLast?_cons]
  · cases hcode

/-- A text with any other character than digits and a minus is no integer. -/
theorem integer?_eq_none_of_mem {c : Char} {code : List Char} (hc : c.isDigit = false)
    (hminus : c ≠ '-') (hmem : c ∈ code) : integer? code = none := by
  unfold integer?
  split
  · next text =>
    have htail : c ∈ text := (List.mem_cons.mp hmem).resolve_left hminus
    rw [natural?_eq_none_of_mem hc htail]
    rfl
  · rw [natural?_eq_none_of_mem hc hmem]
    rfl

/-- An integer literal is read as its number. -/
theorem ofLiteral?_number (value : Int) :
    Value.ofLiteral? (Expression.number value).code.toList = some (.number value) := by
  have hinteger := integer?_toString value
  have hquoted : quoted? (toString value).toList = none := by
    cases hcase : quoted? (toString value).toList with
    | none => rfl
    | some content =>
      have hmem := List.mem_of_getLast? (getLast?_of_quoted? hcase)
      rw [integer?_eq_none_of_mem (by decide) (by decide) hmem] at hinteger
      cases hinteger
  unfold Value.ofLiteral?
  rw [show (Expression.number value).code = toString value from rfl, hquoted, hinteger]
  rfl

/-- A text literal is read as its text, if all of that stands for itself. -/
theorem ofLiteral?_text {content : String} (hcontent : content.toList.all isPlain = true) :
    Value.ofLiteral? (Expression.text content).code.toList = some (.text content) := by
  have hcode : (Expression.text content).code.toList = '"' :: content.toList ++ ['"'] := by
    simp [Expression.code, String.toList_append]
  unfold Value.ofLiteral?
  rw [hcode, quoted?_of_isPlain hcontent]
  simp

/-- The expression for a member whose name is an identifier is no literal, whatever the
reference is: it has a dot and does not end in a quote. -/
theorem ofLiteral?_member {reference name : String} (hname : Text.isIdentifier name.toList = true) :
    Value.ofLiteral? (Expression.member reference name).code.toList = none := by
  have hcode : (Expression.member reference name).code.toList =
      reference.toList ++ '.' :: name.toList := by
    simp [Expression.code, String.toList_append]
  have hquoted : quoted? (reference.toList ++ '.' :: name.toList) = none := by
    cases hcase : quoted? (reference.toList ++ '.' :: name.toList) with
    | none => rfl
    | some content =>
      have hlast := getLast?_of_quoted? hcase
      cases hlist : name.toList with
      | nil => rw [hlist] at hname; cases hname
      | cons first rest =>
        rw [hlist, List.getLast?_append, List.getLast?_cons_cons] at hlast
        have hmem : '"' ∈ name.toList := by
          rw [hlist]
          exact List.mem_of_getLast? (by simpa using hlast)
        exact absurd hmem (notMem_of_isIdentifier (by decide) hname)
  have hinteger : integer? (reference.toList ++ '.' :: name.toList) = none :=
    integer?_eq_none_of_mem (c := '.') (by decide) (by decide) (by simp)
  unfold Value.ofLiteral?
  rw [hcode, hquoted, hinteger]
  rfl

end EnumBindings.Script
