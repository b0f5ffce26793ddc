import EnumBindings.Json.Token
import EnumBindings.Proofs.Script.Literal

/-!
# Reading a string literal

A text of generated code is a sequence of code units. Between the quotes of a literal a character
stands for its own units, unless it belongs to an escape sequence; a quote ends the literal, and the
end of the line breaks it. A text that is written between quotes as it is, is read back exactly if
all of its characters stand for themselves, since an escape sequence has more units than it stands
for.
-/

namespace EnumBindings.Script

open Token (hexValue? hexValue4?)

/-- The code units of a code point: the point itself, or a pair of surrogates. -/
def unitsOfPoint (point : Nat) : List Nat :=
  if point < 0x10000 then [point]
  else [0xD800 + (point - 0x10000) / 0x400, 0xDC00 + (point - 0x10000) % 0x400]

/-- The code units of a text. -/
def codeUnits (text : List Char) : List Nat :=
  text.flatMap fun c => unitsOfPoint c.toNat

/-- Letters behind a backslash, with the code units that they stand for there. -/
def letterEscapes : List (Char × Nat) :=
  [('b', 8), ('t', 9), ('n', 10), ('v', 11), ('f', 12), ('r', 13), ('"', 34), ('\x27', 39),
    ('\\', 92)]

/-- Characters that still stand for themselves behind a backslash. A digit or the start of a
hexadecimal escape does not, and the end of a line would continue the literal on the next one. -/
def isSelfEscaped (c : Char) : Bool :=
  !c.isDigit && c ∉ ['x', 'u', '\n', '\r', '\u2028', '\u2029']

/-- A code point in hexadecimal digits before a closing brace, and what stands behind the brace. -/
def readPoint? (text : List Char) : Option (Nat × List Char) :=
  let digits := text.takeWhile fun c => (hexValue? c).isSome
  let point := (digits.filterMap hexValue?).foldl (fun value digit => 16 * value + digit) 0
  match text.dropWhile fun c => (hexValue? c).isSome with
  | '\x7d' :: rest => if digits ≠ [] ∧ point < 0x110000 then some (point, rest) else none
  | _ => none

/-- What the first escape sequence of a text stands for, read from behind its backslash, and what
stands behind it. A zero is one unless a digit follows. -/
def readEscape? : List Char → Option (List Nat × List Char)
  | 'x' :: a :: b :: rest => do
    return ([16 * (← hexValue? a) + (← hexValue? b)], rest)
  | 'u' :: '\x7b' :: text => (readPoint? text).map fun (point, rest) => (unitsOfPoint point, rest)
  | 'u' :: a :: b :: c :: d :: rest => (hexValue4? a b c d).map fun unit => ([unit], rest)
  | '0' :: rest => if rest.head?.any Char.isDigit then none else some ([0], rest)
  | c :: rest =>
    match letterEscapes.lookup c with
    | some unit => some ([unit], rest)
    | none => if isSelfEscaped c then some (unitsOfPoint c.toNat, rest) else none
  | [] => none

/-- What the first element of a text within quotes stands for, and what stands behind it. -/
def readElement? : List Char → Option (List Nat × List Char)
  | '\\' :: text => readEscape? text
  | c :: rest => if isPlain c then some (unitsOfPoint c.toNat, rest) else none
  | [] => none

/-- A text is read up to the first quote that belongs to no escape sequence. -/
inductive ReadsElements : List Char → List Nat → List Char → Prop
  | closed {rest : List Char} : ReadsElements ('"' :: rest) [] rest
  | element {text behind rest : List Char} {first others : List Nat}
      (hfirst : readElement? text = some (first, behind))
      (hothers : ReadsElements behind others rest) : ReadsElements text (first ++ others) rest

/-- A text begins with a string literal that stands for the given code units. -/
def ReadsString (text : List Char) (units : List Nat) (rest : List Char) : Prop :=
  ∃ inner, text = '"' :: inner ∧ ReadsElements inner units rest

/-- The code is a string literal for a name, and complete, whatever stands behind it on its line. -/
def Denotes (code name : String) : Prop :=
  ∀ behind, ReadsString (code.toList ++ behind) (codeUnits name.toList) behind

/-- A name between quotes, as it is. -/
def quoted (name : String) : String :=
  "\"" ++ name ++ "\""

variable {text behind rest : List Char} {units : List Nat}

/-- No quote is an element of a literal. -/
theorem readElement?_quote (text : List Char) : readElement? ('"' :: text) = none := by
  rfl

/-- A literal is read in one way. -/
theorem ReadsElements.unique {others : List Nat} (hunits : ReadsElements text units rest)
    (hothers : ReadsElements text others behind) : units = others ∧ rest = behind := by
  induction hunits generalizing others behind with
  | closed =>
    cases hothers with
    | closed => exact ⟨rfl, rfl⟩
    | element hfirst _ => rw [readElement?_quote] at hfirst; cases hfirst
  | element hfirst _ ih =>
    cases hothers with
    | closed => rw [readElement?_quote] at hfirst; cases hfirst
    | element hsecond hothers =>
      rw [hfirst, Option.some.injEq, Prod.mk.injEq] at hsecond
      obtain ⟨rfl, rfl⟩ := hsecond
      obtain ⟨rfl, rfl⟩ := ih hothers
      exact ⟨rfl, rfl⟩

@[simp] theorem codeUnits_cons (c : Char) (text : List Char) :
    codeUnits (c :: text) = unitsOfPoint c.toNat ++ codeUnits text :=
  rfl

@[simp] theorem codeUnits_append (left right : List Char) :
    codeUnits (left ++ right) = codeUnits left ++ codeUnits right :=
  List.flatMap_append

/-- A code point has one code unit or two. -/
theorem length_unitsOfPoint (point : Nat) :
    1 ≤ (unitsOfPoint point).length ∧ (unitsOfPoint point).length ≤ 2 := by
  unfold unitsOfPoint
  split <;> simp

/-- A text has no fewer code units than characters. -/
theorem length_le_length_codeUnits (text : List Char) : text.length ≤ (codeUnits text).length := by
  induction text with
  | nil => exact Nat.le_refl 0
  | cons c text ih =>
    have hone := (length_unitsOfPoint c.toNat).1
    rw [codeUnits_cons, List.length_append, List.length_cons]
    omega

/-- A code point in braces is written with a digit at least. -/
theorem exists_digits_of_readPoint? {point : Nat} (hpoint : readPoint? text = some (point, rest)) :
    ∃ digits, digits ≠ [] ∧ text = digits ++ '\x7d' :: rest := by
  unfold readPoint? at hpoint
  split at hpoint
  · next behind hbrace =>
    obtain ⟨⟨hdigits, _⟩, hrest⟩ := Option.ite_none_right_eq_some.mp hpoint
    obtain ⟨_, rfl⟩ := Prod.mk.inj (Option.some.inj hrest)
    exact ⟨_, hdigits, by rw [← hbrace, List.takeWhile_append_dropWhile]⟩
  · cases hpoint

/-- An escape sequence has at least as many units as it stands for, even without its backslash. -/
theorem exists_piece_of_readEscape? (hescape : readEscape? text = some (units, rest)) :
    ∃ piece, text = piece ++ rest ∧ units.length ≤ (codeUnits piece).length := by
  unfold readEscape? at hescape
  split at hescape
  · next a b behind =>
    obtain ⟨_, _, hdigits⟩ := Option.bind_eq_some_iff.mp hescape
    obtain ⟨_, _, hpair⟩ := Option.bind_eq_some_iff.mp hdigits
    obtain ⟨rfl, rfl⟩ := Prod.mk.inj (Option.some.inj hpair)
    exact ⟨['x', a, b], rfl, Nat.le_trans (by simp) (length_le_length_codeUnits ['x', a, b])⟩
  · next behind =>
    obtain ⟨⟨point, remaining⟩, hpoint, hpair⟩ := Option.map_eq_some_iff.mp hescape
    obtain ⟨rfl, rfl⟩ := Prod.mk.inj hpair
    obtain ⟨digits, hdigits, rfl⟩ := exists_digits_of_readPoint? hpoint
    refine ⟨'u' :: '\x7b' :: digits ++ ['\x7d'], by simp, ?_⟩
    have hlength := length_le_length_codeUnits ('u' :: '\x7b' :: digits ++ ['\x7d'])
    have htwo := (length_unitsOfPoint point).2
    simp only [List.length_append, List.length_cons] at hlength ⊢
    omega
  · next a b c d behind _ =>
    obtain ⟨unit, _, hpair⟩ := Option.map_eq_some_iff.mp hescape
    obtain ⟨rfl, rfl⟩ := Prod.mk.inj hpair
    exact ⟨['u', a, b, c, d], rfl,
      Nat.le_trans (by simp) (length_le_length_codeUnits ['u', a, b, c, d])⟩
  · next behind =>
    obtain ⟨_, hpair⟩ := Option.ite_none_left_eq_some.mp hescape
    obtain ⟨rfl, rfl⟩ := Prod.mk.inj (Option.some.inj hpair)
    exact ⟨['0'], rfl, length_le_length_codeUnits ['0']⟩
  · next c behind _ _ _ _ =>
    refine ⟨[c], ?_⟩
    split at hescape
    · obtain ⟨rfl, rfl⟩ := Prod.mk.inj (Option.some.inj hescape)
      exact ⟨rfl, length_le_length_codeUnits [c]⟩
    · obtain ⟨_, hpair⟩ := Option.ite_none_right_eq_some.mp hescape
      obtain ⟨rfl, rfl⟩ := Prod.mk.inj (Option.some.inj hpair)
      exact ⟨rfl, by simp⟩
  · cases hescape

/-- An element is a character that stands for itself, or has more units than it stands for. -/
theorem exists_piece_of_readElement? (helement : readElement? text = some (units, rest)) :
    ∃ piece, text = piece ++ rest ∧ units.length ≤ (codeUnits piece).length ∧
      ((codeUnits piece).length ≤ units.length → piece.all isPlain = true) := by
  unfold readElement? at helement
  split at helement
  · next behind =>
    obtain ⟨piece, rfl, hlength⟩ := exists_piece_of_readEscape? helement
    have hbackslash : (codeUnits ('\\' :: piece)).length = 1 + (codeUnits piece).length := by
      rw [codeUnits_cons, List.length_append]
      rfl
    exact ⟨'\\' :: piece, rfl, by omega, fun _ => by omega⟩
  · next c behind _ =>
    obtain ⟨hplain, hpair⟩ := Option.ite_none_right_eq_some.mp helement
    obtain ⟨rfl, rfl⟩ := Prod.mk.inj (Option.some.inj hpair)
    exact ⟨[c], rfl, by simp, fun _ => by simpa using hplain⟩
  · cases helement

/-- What stands between the quotes has at least as many units as it stands for, and no more only if
all of its characters stand for themselves. -/
theorem ReadsElements.exists_inner (hunits : ReadsElements text units rest) :
    ∃ inner, text = inner ++ '"' :: rest ∧ units.length ≤ (codeUnits inner).length ∧
      ((codeUnits inner).length ≤ units.length → inner.all isPlain = true) := by
  induction hunits with
  | closed => exact ⟨[], rfl, Nat.le_refl 0, fun _ => rfl⟩
  | element hfirst _ ih =>
    obtain ⟨piece, rfl, hpiece, hplain⟩ := exists_piece_of_readElement? hfirst
    obtain ⟨inner, rfl, hinner, hall⟩ := ih
    refine ⟨piece ++ inner, by simp, ?_, ?_⟩
    · rw [codeUnits_append, List.length_append, List.length_append]
      omega
    · rw [codeUnits_append, List.length_append, List.length_append, List.all_append]
      intro hlength
      rw [hplain (by omega), hall (by omega)]
      rfl

/-- Characters that stand for themselves are read as they are. -/
theorem readsElements_of_isPlain {inner : List Char} (hinner : inner.all isPlain = true)
    (rest : List Char) : ReadsElements (inner ++ '"' :: rest) (codeUnits inner) rest := by
  induction inner with
  | nil => exact .closed
  | cons c inner ih =>
    obtain ⟨hc, hinner⟩ := Bool.and_eq_true_iff.mp hinner
    have hfirst : readElement? (c :: (inner ++ '"' :: rest)) =
        some (unitsOfPoint c.toNat, inner ++ '"' :: rest) := by
      unfold readElement?
      split
      · next heq =>
        obtain ⟨rfl, _⟩ := List.cons.inj heq
        cases hc
      · next heq =>
        obtain ⟨rfl, rfl⟩ := List.cons.inj heq
        rw [if_pos hc]
      · next heq => cases heq
    exact .element hfirst (ih hinner)

/-- A name between quotes denotes itself exactly if all of its characters stand for themselves. -/
theorem denotes_quoted_iff {name : String} :
    Denotes (quoted name) name ↔ name.toList.all isPlain = true := by
  have hcode (behind : List Char) :
      (quoted name).toList ++ behind = '"' :: (name.toList ++ '"' :: behind) := by
    simp [quoted]
  constructor
  · intro hdenotes
    obtain ⟨inner, htext, hunits⟩ := hdenotes []
    rw [hcode] at htext
    obtain ⟨_, rfl⟩ := List.cons.inj htext
    obtain ⟨read, hread, _, hplain⟩ := hunits.exists_inner
    obtain rfl := List.append_cancel_right hread
    exact hplain (Nat.le_refl _)
  · intro hplain behind
    exact ⟨_, hcode behind, readsElements_of_isPlain hplain behind⟩

/-- A character beyond the first plane may be written with a code point in braces. -/
example : readElement? "\\u\x7b1F600\x7d;".toList = some (codeUnits "😀".toList, [';']) := by
  decide

end EnumBindings.Script
