import EnumBindings.Proofs.Json.QuotedText
import Mathlib.Data.List.Find
import Mathlib.Tactic.SplitIfs

/-!
# A token lies within a line

No token has a line break in it, and nothing behind a line break has a part in how a token is read.
At the front of a text the token is read that is read at the front of its first line, and it is no
longer than that line; only a broken one may be broken in another way.
-/

namespace EnumBindings.Token

open Text (firstLine isReturn)

variable {c : Char} {size : Nat} {text : List Char}

/-! ## Numbers -/

theorem isReturn_eq_false_of_isDecimalDigit (hc : isDecimalDigit c = true) :
    isReturn c = false := by
  rw [Text.isReturn_eq_false_iff]
  constructor <;> rintro rfl <;> cases hc

/-- A row of digits does not reach beyond the first line. -/
theorem takeWhile_isDecimalDigit_firstLine (text : List Char) :
    (firstLine text).takeWhile isDecimalDigit = text.takeWhile isDecimalDigit :=
  Text.takeWhile_firstLine fun _ => isReturn_eq_false_of_isDecimalDigit

theorem wholeDigits_eq_ite (text : List Char) : wholeDigits text =
    if text.head? = some '0' then ['0'] else text.takeWhile isDecimalDigit := by
  unfold wholeDigits
  split
  · rfl
  · rename_i hzero
    rw [if_neg]
    intro hhead
    obtain ⟨rest, rfl⟩ := List.head?_eq_some_iff.mp hhead
    exact hzero rest rfl

theorem fractionDigits_eq_ite (text : List Char) : fractionDigits text =
    if text.head? = some '.' then (text.drop 1).takeWhile isDecimalDigit else [] := by
  unfold fractionDigits
  split
  · rfl
  · rename_i hpoint
    rw [if_neg]
    intro hhead
    obtain ⟨rest, rfl⟩ := List.head?_eq_some_iff.mp hhead
    exact hpoint rest rfl

/-- The digits before a point are those of the first line. -/
theorem wholeDigits_firstLine (text : List Char) :
    wholeDigits (firstLine text) = wholeDigits text := by
  rw [wholeDigits_eq_ite, wholeDigits_eq_ite, takeWhile_isDecimalDigit_firstLine]
  simp only [Text.head?_firstLine_eq_iff (c := '0') rfl]

/-- The digits behind a point are those of the first line. -/
theorem fractionDigits_firstLine (text : List Char) :
    fractionDigits (firstLine text) = fractionDigits text := by
  rw [fractionDigits_eq_ite, fractionDigits_eq_ite]
  simp only [Text.head?_firstLine_eq_iff (c := '.') rfl]
  split_ifs with hhead
  · rw [Text.tail_firstLine rfl hhead, takeWhile_isDecimalDigit_firstLine]
  · rfl

/-- The digits behind a sign, or in front where there is none, are those of the first line. -/
theorem takeWhile_behindSign_firstLine {signed : Bool}
    (hsigned : signed = true → ∃ c, isReturn c = false ∧ text.head? = some c) :
    (if signed = true then (firstLine text).drop 1 else firstLine text).takeWhile isDecimalDigit =
      (if signed = true then text.drop 1 else text).takeWhile isDecimalDigit := by
  cases signed with
  | false => exact takeWhile_isDecimalDigit_firstLine text
  | true =>
    obtain ⟨c, hc, hhead⟩ := hsigned rfl
    rw [if_pos rfl, if_pos rfl, Text.tail_firstLine hc hhead]
    exact takeWhile_isDecimalDigit_firstLine (text.drop 1)

/-- An exponent is read from the first line. -/
theorem readExponent?_firstLine (text : List Char) :
    readExponent? (firstLine text) = readExponent? text := by
  cases text with
  | nil => rfl
  | cons mark text =>
    by_cases hmark : isReturn mark = true
    · rw [Text.firstLine_cons_of_isReturn hmark]
      rcases Text.isReturn_eq_true_iff.mp hmark with rfl | rfl <;> rfl
    · have hsigned : (decide (text.head? = some '-') || decide (text.head? = some '+')) = true →
          ∃ c, isReturn c = false ∧ text.head? = some c := by
        intro hsigned
        rcases Bool.or_eq_true_iff.mp hsigned with hminus | hplus
        · exact ⟨'-', rfl, of_decide_eq_true hminus⟩
        · exact ⟨'+', rfl, of_decide_eq_true hplus⟩
      rw [Text.firstLine_cons (by simpa using hmark), readExponent?, readExponent?]
      simp only [Text.head?_firstLine_eq_iff (c := '-') rfl,
        Text.head?_firstLine_eq_iff (c := '+') rfl, takeWhile_behindSign_firstLine hsigned]

/-! ## Lengths -/

/-- A sign in front belongs to the text. -/
theorem length_sign_le (text : List Char) :
    (if text.head? = some '-' then 1 else 0) ≤ text.length := by
  split_ifs with hhead
  · obtain ⟨rest, rfl⟩ := List.head?_eq_some_iff.mp hhead
    exact Nat.succ_le_succ (Nat.zero_le _)
  · exact Nat.zero_le _

/-- The digits before a point end within the text. -/
theorem add_length_wholeDigits_le {n : Nat} (hn : n ≤ text.length) :
    n + (wholeDigits (text.drop n)).length ≤ text.length := by
  obtain ⟨hstart, _⟩ := wholeDigits_prefix (text.drop n)
  have hlength := hstart.length_le
  rw [List.length_drop] at hlength
  omega

/-- A point with the digits behind it ends within the text. -/
theorem add_length_fractionDigits_le {n : Nat} (hn : n ≤ text.length) :
    (if (fractionDigits (text.drop n)).isEmpty then n
      else n + 1 + (fractionDigits (text.drop n)).length) ≤ text.length := by
  generalize hrest : text.drop n = rest
  have hlength : rest.length = text.length - n := by rw [← hrest, List.length_drop]
  unfold fractionDigits
  split
  · rename_i digits
    have hdigits := (List.takeWhile_prefix isDecimalDigit (l := digits)).length_le
    rw [List.length_cons] at hlength
    split_ifs <;> omega
  · exact hn

/-- A sign with the digits behind it ends within the text. -/
theorem length_behindSign_le {signed : Bool} (hsigned : signed = true → text ≠ []) :
    (if signed = true then 1 else 0) +
      ((if signed = true then text.drop 1 else text).takeWhile isDecimalDigit).length ≤
        text.length := by
  have hdigits (part : List Char) : (part.takeWhile isDecimalDigit).length ≤ part.length :=
    (List.takeWhile_prefix isDecimalDigit).length_le
  cases signed with
  | false => simpa using hdigits text
  | true =>
    have hbehind := hdigits (text.drop 1)
    have hlength : 0 < text.length := List.length_pos_iff.mpr (hsigned rfl)
    rw [List.length_drop] at hbehind
    rw [if_pos rfl, if_pos rfl]
    omega

/-- An exponent ends within the text. -/
theorem add_size_le {n : Nat} {exponent : Int} (hn : n ≤ text.length)
    (hread : readExponent? (text.drop n) = some (exponent, size)) : n + size ≤ text.length := by
  generalize hrest : text.drop n = rest at hread
  have hlength : rest.length = text.length - n := by rw [← hrest, List.length_drop]
  cases rest with
  | nil => cases hread
  | cons mark rest =>
    rw [List.length_cons] at hlength
    rw [readExponent?] at hread
    simp only at hread
    generalize hsigned : (decide (rest.head? = some '-') || decide (rest.head? = some '+')) = signed
      at hread
    have hrest : signed = true → rest ≠ [] := by
      rintro rfl rfl
      cases hsigned
    have hsize := length_behindSign_le hrest
    generalize (if signed = true then rest.drop 1 else rest).takeWhile isDecimalDigit = digits
      at hread hsize
    generalize (if signed = true then 1 else 0) = sign at hread hsize
    split at hread
    · split at hread
      · cases hread
      · obtain ⟨-, rfl⟩ := Prod.mk.inj (Option.some.inj hread)
        omega
    · cases hread

/-- A number is read from the first line. -/
theorem readNumber_firstLine (text : List Char) :
    readNumber (firstLine text) = readNumber text := by
  have hminus : ((firstLine text).head? = some '-') = (text.head? = some '-') :=
    propext (Text.head?_firstLine_eq_iff rfl)
  have hsign := length_sign_le (firstLine text)
  unfold readNumber
  simp only [hminus] at hsign ⊢
  -- Each part is read behind the ones before it, which end within the first line.
  generalize (if text.head? = some '-' then 1 else 0) = sign at hsign ⊢
  have hwhole := add_length_wholeDigits_le hsign
  rw [Text.drop_firstLine hsign, wholeDigits_firstLine] at hwhole ⊢
  generalize wholeDigits (text.drop sign) = whole at hwhole ⊢
  have hfraction := add_length_fractionDigits_le hwhole
  rw [Text.drop_firstLine hwhole, fractionDigits_firstLine] at hfraction ⊢
  generalize fractionDigits (text.drop (sign + whole.length)) = fraction at hfraction ⊢
  rw [Text.drop_firstLine hfraction, readExponent?_firstLine]

/-- A number is no longer than the text that it is read from. -/
theorem length_readNumber_le (text : List Char) : (readNumber text).2 ≤ text.length := by
  have hsign := length_sign_le text
  unfold readNumber
  simp only
  generalize (if text.head? = some '-' then 1 else 0) = sign at hsign ⊢
  have hwhole := add_length_wholeDigits_le hsign
  generalize wholeDigits (text.drop sign) = whole at hwhole ⊢
  have hfraction := add_length_fractionDigits_le hwhole
  generalize fractionDigits (text.drop (sign + whole.length)) = fraction at hfraction ⊢
  generalize (if fraction.isEmpty = true then sign + whole.length
    else sign + whole.length + 1 + fraction.length) = length at hfraction ⊢
  split
  · exact Nat.zero_le _
  · split
    · split <;> exact hfraction
    · rename_i hread
      exact add_size_le hfraction hread
    · exact hfraction

/-! ## Tokens -/

/-- Whether a word begins a text is told by the first line. -/
theorem isPrefixOf_firstLine {word : List Char × Json} (hword : word ∈ words) (text : List Char) :
    word.1.isPrefixOf (firstLine text) = word.1.isPrefixOf text := by
  have hwords : words.all (fun word => word.1.all fun c => !isReturn c) = true := by decide
  have hfree : ∀ c ∈ word.1, isReturn c = false := by
    simpa using List.all_eq_true.mp (List.all_eq_true.mp hwords word hword)
  rw [Bool.eq_iff_iff, List.isPrefixOf_iff_prefix, List.isPrefixOf_iff_prefix]
  exact ⟨fun hstart => hstart.trans (List.takeWhile_prefix _), Text.prefix_firstLine hfree⟩

/-- A token is no longer than the text that it is read from. -/
theorem length_read_le (text : List Char) : (read text).2 ≤ text.length := by
  unfold read
  split
  · rename_i rest
    have hlength := length_readText_le [] 1 0 rest
    rw [List.length_cons]
    omega
  case h_8 =>
    split
    · rename_i word value hfind
      have hstart := List.find?_some hfind
      exact (List.isPrefixOf_iff_prefix.mp hstart).length_le
    · exact length_readNumber_le text
  all_goals exact Nat.succ_le_succ (Nat.zero_le _)

/-- The characters that tell a token that is neither a word nor a number. -/
def marks : List Char :=
  ['"', '[', ']', '\x7b', '\x7d', ',', ':']

/-- A token is a word or a number if its first character tells nothing else. -/
theorem read_of_notMem_marks (hc : c ∉ marks) (text : List Char) :
    read (c :: text) = ((words.find? (·.1.isPrefixOf (c :: text))).map fun word =>
      (plain word.2, word.1.length)).getD (readNumber (c :: text)) := by
  unfold read
  split
  case h_8 => cases words.find? (·.1.isPrefixOf (c :: text)) <;> rfl
  all_goals
    rename_i heq
    obtain ⟨rfl, -⟩ := List.cons.inj heq
    exact absurd hc (by decide)

/-- What is read at the front of a text, unless it is broken, is what is read at the front of its
first line. -/
theorem whole?_read_firstLine (text : List Char) :
    whole? (read (firstLine text)) = whole? (read text) := by
  cases text with
  | nil => rfl
  | cons c text =>
    by_cases hreturn : isReturn c = true
    · rw [Text.firstLine_cons_of_isReturn hreturn]
      rcases Text.isReturn_eq_true_iff.mp hreturn with rfl | rfl <;> rfl
    · have hline : firstLine (c :: text) = c :: firstLine text :=
        Text.firstLine_cons (by simpa using hreturn)
      by_cases hmark : c ∈ marks
      · rw [hline]
        simp only [marks, List.mem_cons, List.not_mem_nil, or_false] at hmark
        rcases hmark with rfl | rfl | rfl | rfl | rfl | rfl | rfl
        · exact whole?_readText_firstLine [] 1 text
        all_goals rfl
      · have hfind : words.find? (·.1.isPrefixOf (c :: firstLine text)) =
            words.find? (·.1.isPrefixOf (c :: text)) := by
          rw [← hline]
          exact List.find?_congr fun word hword => isPrefixOf_firstLine hword (c :: text)
        have hnumber : readNumber (c :: firstLine text) = readNumber (c :: text) := by
          rw [← hline, readNumber_firstLine]
        rw [hline, read_of_notMem_marks hmark, read_of_notMem_marks hmark, hfind, hnumber]

/-- A token that is not broken is no longer than the first line. -/
theorem length_le_of_whole? {token : Token} (hread : whole? (read text) = some (token, size)) :
    size ≤ (firstLine text).length := by
  rw [← whole?_read_firstLine, whole?_eq_some_iff] at hread
  rw [← hread.2]
  exact length_read_le (firstLine text)

end EnumBindings.Token
