import EnumBindings.Json.Token
import EnumBindings.Proofs.Text.CodePoints
import EnumBindings.Text.Lines
import EnumBindings.Text.Pieces
import EnumBindings.Text.Quoted
import Mathlib.Tactic.SplitIfs

/-!
# Reading quoted literals

The notation of literals on one line, apart from any writer. A literal stands between two quotes of
either kind; a character in it stands for its own code point, unless it belongs to an escape
sequence, which may write a code point in octal or hexadecimal digits or by its name. A literal is
read in one way, and the literal that shows a text has visible characters only and is read as that
text.
-/

namespace EnumBindings.Text

open Token (hexValue?)

/-- The control characters: the codes before the space, and those behind the tilde and before the
signs of the second half of Latin-1. -/
def isControl (c : Char) : Bool :=
  inRanges c.toNat [(0x0, 0x1F), (0x7F, 0x9F)]

/-- A number in so many hexadecimal digits behind those already read, and what stands behind it. -/
def readHex? : Nat → Nat → List Char → Option (Nat × List Char)
  | 0, value, text => some (value, text)
  | _ + 1, _, [] => none
  | width + 1, value, c :: text =>
    (hexValue? c).bind fun digit => readHex? width (16 * value + digit) text

/-- A code point in so many hexadecimal digits, and what stands behind it. -/
def readHexPoint? (width : Nat) (text : List Char) : Option (List Nat × List Char) :=
  (readHex? width 0 text).bind fun read =>
    if read.1 < 0x110000 then some ([read.1], read.2) else none

/-- The digits zero to seven. -/
def isOctalDigit (c : Char) : Bool :=
  decide (0x30 ≤ c.toNat) && decide (c.toNat ≤ 0x37)

/-- A code point in up to three octal digits, and what stands behind it. -/
def readOctalPoint (text : List Char) : List Nat × List Char :=
  let digits := (text.take 3).takeWhile isOctalDigit
  ([digits.foldl (fun value digit => 8 * value + (digit.toNat - 0x30)) 0],
    text.drop digits.length)

/-- Characters behind a backslash, with the code points that they stand for there. -/
def letterEscapes : List (Char × Nat) := [
  ('\\', 92), (singleQuote, 39), (doubleQuote, 34), ('a', 7), ('b', 8), ('f', 12), ('n', 10),
  ('r', 13), ('t', 9), ('v', 11)]

/-- Characters behind a backslash that hexadecimal digits follow, with the number of digits. -/
def hexWidths : List (Char × Nat) := [('x', 2), ('u', 4), ('U', 8)]

/-- What the first escape sequence of a text stands for, read from behind its backslash, and what
stands behind it. At the end of a line it stands for nothing, and before a character that makes no
escape sequence the backslash stands for itself. The names of characters are given. -/
def readEscape? (named : List Char → Option Nat) : List Char → Option (List Nat × List Char)
  | [] => none
  | '\n' :: rest => some ([], rest)
  | '\r' :: '\n' :: rest => some ([], rest)
  | '\r' :: rest => some ([], rest)
  | 'N' :: '\x7b' :: text =>
    let (name, behind) := cutAtFirst '\x7d' text
    behind.bind fun rest => (named name).map fun point => ([point], rest)
  | 'N' :: _ => none
  | c :: rest =>
    if isOctalDigit c then some (readOctalPoint (c :: rest))
    else
      match hexWidths.lookup c with
      | some width => readHexPoint? width rest
      | none =>
        match letterEscapes.lookup c with
        | some point => some ([point], rest)
        | none => some ([92, c.toNat], rest)

/-- What the first element of a text within quotes stands for, and what stands behind it. The quote
in use, the end of a line and the null character are no elements. -/
def readElement? (named : List Char → Option Nat) (quote : Char) :
    List Char → Option (List Nat × List Char)
  | [] => none
  | '\\' :: text => readEscape? named text
  | c :: rest =>
    if c = quote ∨ c = '\n' ∨ c = '\r' ∨ c = '\x00' then none else some ([c.toNat], rest)

/-- What a text within quotes stands for. The quote that closes it is the last character. -/
inductive ReadsElements (named : List Char → Option Nat) (quote : Char) :
    List Char → List Nat → Prop
  | closed : ReadsElements named quote [quote] []
  | element {text behind : List Char} {first others : List Nat}
      (hfirst : readElement? named quote text = some (first, behind))
      (hothers : ReadsElements named quote behind others) :
      ReadsElements named quote text (first ++ others)

/-- A literal and the code points that it stands for. Three quotes in front, as of literals of
several lines, are no beginning: nothing may follow a closing quote. -/
def Denotes (named : List Char → Option Nat) (literal : List Char) (points : List Nat) : Prop :=
  ∃ quote inner, (quote = singleQuote ∨ quote = doubleQuote) ∧ literal = quote :: inner ∧
    ReadsElements named quote inner points

variable {named : List Char → Option Nat} {quote c : Char} {text other literal rest : List Char}
  {points others : List Nat}

/-! ## One reading -/

/-- The quote in use is no element. -/
theorem readElement?_quote (hquote : quote = singleQuote ∨ quote = doubleQuote)
    (rest : List Char) : readElement? named quote (quote :: rest) = none := by
  rcases hquote with rfl | rfl <;> rfl

/-- What stands between quotes is read in one way. -/
theorem ReadsElements.unique (hquote : quote = singleQuote ∨ quote = doubleQuote)
    (hpoints : ReadsElements named quote text points)
    (hothers : ReadsElements named quote text others) : points = others := by
  induction hpoints generalizing others with
  | closed =>
    cases hothers with
    | closed => rfl
    | element hfirst _ => rw [readElement?_quote hquote] at hfirst; cases hfirst
  | element hfirst _ ih =>
    cases hothers with
    | closed => rw [readElement?_quote hquote] at hfirst; cases hfirst
    | element hsecond hothers =>
      rw [hfirst, Option.some.injEq, Prod.mk.injEq] at hsecond
      obtain ⟨rfl, rfl⟩ := hsecond
      rw [ih hothers]

/-- A literal is read in one way. -/
theorem Denotes.unique (hpoints : Denotes named literal points)
    (hothers : Denotes named literal others) : points = others := by
  obtain ⟨quote, inner, hquote, rfl, hpoints⟩ := hpoints
  obtain ⟨other, inner', _, hliteral, hothers⟩ := hothers
  obtain ⟨rfl, rfl⟩ := List.cons.inj hliteral
  exact hpoints.unique hquote hothers

/-! ## Visible characters -/

/-- What is shown as it is neither ends a line nor is a control character. -/
theorem visible_of_isPrintable (hc : isPrintable c = true) :
    isLineBreak c = false ∧ isControl c = false :=
  ⟨inRanges_eq_false_of_apart (by decide +kernel) hc,
    inRanges_eq_false_of_apart (by decide +kernel) hc⟩

theorem isPrintable_hexDigits {width number : Nat} :
    ∀ c ∈ hexDigits width number, isPrintable c = true := by
  have hdigit : ∀ value < 16, isPrintable (hexDigit value) = true := by decide
  induction width generalizing number with
  | zero => exact fun c hc => absurd hc List.not_mem_nil
  | succ width ih =>
    rw [hexDigits, List.forall_mem_append]
    exact ⟨ih, List.forall_mem_singleton.mpr (hdigit _ (Nat.mod_lt _ (by decide)))⟩

/-- A character in a literal is shown in visible characters. -/
theorem isPrintable_escapeChar (hquote : isPrintable quote = true) (c : Char) :
    ∀ d ∈ escapeChar quote c, isPrintable d = true := by
  have hbackslash : isPrintable '\\' = true := by decide
  have hletters : ['n', 'r', 't', 'x', 'u', 'U'].all isPrintable = true := by decide
  simp only [List.all_cons, List.all_nil, Bool.and_true, Bool.and_eq_true] at hletters
  unfold escapeChar
  split
  · next hc =>
    have hprintable : isPrintable c = true := by
      rcases hc with rfl | rfl
      · exact hquote
      · exact hbackslash
    simp [hbackslash, hprintable]
  · split_ifs with hfeed hreturn htab hprintable hbyte hplane
    · simp [hbackslash, hletters]
    · simp [hbackslash, hletters]
    · simp [hbackslash, hletters]
    · simp [hprintable]
    · simpa [hbackslash, hletters] using isPrintable_hexDigits
    · simpa [hbackslash, hletters] using isPrintable_hexDigits
    · simpa [hbackslash, hletters] using isPrintable_hexDigits

/-! ## Reading what is written -/

theorem hexValue?_hexDigit {value : Nat} (hvalue : value < 16) :
    hexValue? (hexDigit value) = some value := by
  have hall : ∀ value < 16, hexValue? (hexDigit value) = some value := by decide
  exact hall value hvalue

/-- Hexadecimal digits are read as the number that they write, as far as its digits go. -/
theorem readHex?_hexDigits (width more value number : Nat) (rest : List Char) :
    readHex? (width + more) value (hexDigits width number ++ rest) =
      readHex? more (value * Nat.pow 16 width + number % Nat.pow 16 width) rest := by
  induction width generalizing more number rest with
  | zero => simp [hexDigits, Nat.mod_one]
  | succ width ih =>
    have hdigit := hexValue?_hexDigit (Nat.mod_lt number (by decide : 0 < 16))
    have hpower : Nat.pow 16 (width + 1) = 16 * Nat.pow 16 width := Nat.mul_comm _ _
    have hvalue : 16 * (value * Nat.pow 16 width + number / 16 % Nat.pow 16 width) + number % 16 =
        value * (16 * Nat.pow 16 width) + number % (16 * Nat.pow 16 width) := by
      rw [Nat.mod_mul, Nat.mul_left_comm value]
      omega
    rw [hexDigits, List.append_assoc, List.singleton_append, Nat.add_right_comm, Nat.add_assoc, ih,
      readHex?, hdigit, Option.bind_some, hvalue, hpower]

/-- Enough hexadecimal digits are read as the number that they write. -/
theorem readHex?_of_lt {width number : Nat} (hnumber : number < Nat.pow 16 width)
    (rest : List Char) :
    readHex? width 0 (hexDigits width number ++ rest) = some (number, rest) := by
  have hread := readHex?_hexDigits width 0 0 number rest
  rw [Nat.mod_eq_of_lt hnumber, Nat.zero_mul, Nat.zero_add] at hread
  exact hread

theorem toNat_lt (c : Char) : c.toNat < 0x110000 := by
  have hc := c.valid
  simp only [UInt32.isValidChar, Nat.isValidChar] at hc
  show c.val.toNat < 0x110000
  omega

/-- Enough hexadecimal digits are read as the code point that they write. -/
theorem readHexPoint?_hexDigits {width : Nat} (hc : c.toNat < Nat.pow 16 width)
    (rest : List Char) :
    readHexPoint? width (hexDigits width c.toNat ++ rest) = some ([c.toNat], rest) := by
  rw [readHexPoint?, readHex?_of_lt hc, Option.bind_some, if_pos (toNat_lt c)]

/-- A character other than the backslash is read as it is, unless it can be no element. -/
theorem readElement?_cons (hbackslash : c ≠ '\\')
    (hc : ¬(c = quote ∨ c = '\n' ∨ c = '\r' ∨ c = '\x00')) (rest : List Char) :
    readElement? named quote (c :: rest) = some ([c.toNat], rest) := by
  unfold readElement?
  split
  · next heq => cases heq
  · next heq => exact absurd (List.cons.inj heq).1 hbackslash
  · next heq =>
    obtain ⟨rfl, rfl⟩ := List.cons.inj heq
    rw [if_neg hc]

/-- A character in a literal is read as its code point. -/
theorem readElement?_escapeChar (hquote : quote = singleQuote ∨ quote = doubleQuote) (c : Char)
    (rest : List Char) :
    readElement? named quote (escapeChar quote c ++ rest) = some ([c.toNat], rest) := by
  unfold escapeChar
  split_ifs with hescaped hfeed hreturn htab hprintable hbyte hplane
  · rcases hescaped with rfl | rfl
    · rcases hquote with rfl | rfl <;> rfl
    · rfl
  · rw [hfeed]
    rfl
  · rw [hreturn]
    rfl
  · rw [htab]
    rfl
  · obtain ⟨hother, hbackslash⟩ := not_or.mp hescaped
    have hnull : c ≠ '\x00' := by
      rintro rfl
      exact absurd hprintable (by decide)
    exact readElement?_cons hbackslash (by simp [hother, hfeed, hreturn, hnull]) rest
  · exact @readHexPoint?_hexDigits c 2 (Nat.lt_succ_of_le hbyte) rest
  · exact @readHexPoint?_hexDigits c 4 (Nat.lt_succ_of_le hplane) rest
  · exact @readHexPoint?_hexDigits c 8 (Nat.lt_trans (toNat_lt c) (by decide)) rest

/-- Characters between quotes are read as their code points. -/
theorem readsElements_escaped (hquote : quote = singleQuote ∨ quote = doubleQuote)
    (text : List Char) :
    ReadsElements named quote (text.flatMap (escapeChar quote) ++ [quote])
      (text.map Char.toNat) := by
  induction text with
  | nil => exact .closed
  | cons c text ih =>
    rw [List.flatMap_cons, List.append_assoc]
    exact .element (readElement?_escapeChar hquote c _) ih

theorem quoteOf_cases (text : List Char) :
    quoteOf text = singleQuote ∨ quoteOf text = doubleQuote := by
  unfold quoteOf
  split_ifs <;> simp

/-- The literal that shows a text denotes it. -/
theorem denotes_quoted (named : List Char → Option Nat) (text : List Char) :
    Denotes named (quoted text) (text.map Char.toNat) :=
  ⟨_, _, quoteOf_cases text, rfl, readsElements_escaped (quoteOf_cases text) text⟩

/-- The literal that shows a text has visible characters only. -/
theorem isPrintable_quoted (text : List Char) : ∀ c ∈ quoted text, isPrintable c = true := by
  have hquote : isPrintable (quoteOf text) = true := by
    rcases quoteOf_cases text with heq | heq <;> rw [heq] <;> decide
  rw [quoted, List.cons_append, List.forall_mem_cons, List.forall_mem_append]
  refine ⟨hquote, ?_, List.forall_mem_singleton.mpr hquote⟩
  intro d hd
  obtain ⟨c, _, hd⟩ := List.mem_flatMap.mp hd
  exact isPrintable_escapeChar hquote c d hd

/-- Different texts are shown by different literals. -/
theorem quoted_injective (heq : quoted text = quoted other) : text = other := by
  have htext := denotes_quoted (fun _ => none) text
  rw [heq] at htext
  have hpoints := htext.unique (denotes_quoted _ other)
  exact (List.map_inj_right fun _ _ => Char.toNat_inj.mp).mp hpoints

end EnumBindings.Text
