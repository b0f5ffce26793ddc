import EnumBindings.Json.Token
import EnumBindings.Proofs.Json.Spelling

/-!
# Tokens of a spelling

What the scanner finds at the front of a spelling, whatever follows it. A quoted text is found as
its content, however its characters are spelled, and an integer as itself, provided that nothing
follows that could go on with a number.
-/

namespace EnumBindings.Token

/-! ## Quoted texts -/

theorem hexValue?_of_hexDigit {c : Char} {value : Nat} (hdigit : HexDigit c value) :
    hexValue? c = some value := by
  have hall : ∀ value < 16, hexValue? value.digitChar = some value ∧
      hexValue? value.digitChar.toUpper = some value := by
    decide
  obtain ⟨hvalue, rfl | rfl⟩ := hdigit
  · exact (hall value hvalue).1
  · exact (hall value hvalue).2

/-- Four digits are read as the code that they write. -/
theorem hexValue4?_of_hexCode {digits : List Char} {code : Nat} (hcode : HexCode digits code) :
    ∃ a b c d, digits = [a, b, c, d] ∧ hexValue4? a b c d = some code := by
  cases hcode with
  | @digits a b c d first second third fourth ha hb hc hd =>
    refine ⟨a, b, c, d, rfl, ?_⟩
    have hsum : ((first * 16 + second) * 16 + third) * 16 + fourth =
        first * 4096 + second * 256 + third * 16 + fourth := by omega
    simp only [hexValue4?, hexValue?_of_hexDigit ha, hexValue?_of_hexDigit hb,
      hexValue?_of_hexDigit hc, hexValue?_of_hexDigit hd, ← hsum]
    rfl

/-- A character is no half of a surrogate pair. -/
theorem charOfCode_toNat (c : Char) : isHighSurrogate c.toNat = false ∧ charOfCode c.toNat = c := by
  have hvalid : ¬ (0xD800 ≤ c.toNat ∧ c.toNat ≤ 0xDFFF) := by
    have hc := c.valid
    simp only [UInt32.isValidChar, Nat.isValidChar] at hc
    show ¬ (0xD800 ≤ c.val.toNat ∧ c.val.toNat ≤ 0xDFFF)
    omega
  have hhigh : isHighSurrogate c.toNat = false := by
    simp only [isHighSurrogate, Bool.and_eq_false_iff, decide_eq_false_iff_not]
    omega
  have hlow : isLowSurrogate c.toNat = false := by
    simp only [isLowSurrogate, Bool.and_eq_false_iff, decide_eq_false_iff_not]
    omega
  refine ⟨hhigh, ?_⟩
  rw [charOfCode, hhigh, hlow]
  exact Char.ofNat_toNat c

/-- A spelling of a character is read as that character, if any text follows. -/
theorem readChar_of_spellsChar {c : Char} {piece : List Char} (hpiece : SpellsChar c piece)
    (next : Char) (rest : List Char) :
    readChar (piece ++ next :: rest) = .ok (c, piece.length) := by
  cases hpiece with
  | raw _ hbackslash hcontrol =>
    show (if c = '\\' then _ else if c.toNat ≤ 0x1F then _ else _) = _
    rw [if_neg hbackslash, if_neg (by omega)]
    rfl
  | short hshort => cases hshort <;> rfl
  | code hcode =>
    obtain ⟨a, b, d, e, rfl, hvalue⟩ := hexValue4?_of_hexCode hcode
    obtain ⟨hhigh, hchar⟩ := charOfCode_toNat c
    show readEscape ('u' :: a :: b :: d :: e :: next :: rest) = _
    simp only [readEscape, hvalue]
    unfold readCode
    split
    · rw [hhigh, hchar]
      rfl
    · rw [hchar]
      rfl
  | @pair _ _ high low hfirst hsecond hhigh hhigh' hlow hlow' hc =>
    obtain ⟨a, b, d, e, rfl, hvalue⟩ := hexValue4?_of_hexCode hfirst
    obtain ⟨a', b', d', e', rfl, hvalue'⟩ := hexValue4?_of_hexCode hsecond
    have hishigh : isHighSurrogate high = true := by
      simp only [isHighSurrogate, Bool.and_eq_true, decide_eq_true_eq]
      omega
    have hislow : isLowSurrogate low = true := by
      simp only [isLowSurrogate, Bool.and_eq_true, decide_eq_true_eq]
      omega
    have hchar : charOfPair high low = c := by
      rw [charOfPair, ← hc]
      exact Char.ofNat_toNat c
    show readEscape ('u' :: a :: b :: d :: e :: '\\' :: 'u' :: a' :: b' :: d' :: e' :: next ::
      rest) = _
    simp only [readEscape, hvalue, readCode, hishigh, if_true, hvalue', hislow, hchar]
    rfl

/-- The spelling of a character is not empty and does not begin with a quote. -/
theorem exists_cons_of_spellsChar {c : Char} {piece : List Char} (hpiece : SpellsChar c piece) :
    ∃ first rest, piece = first :: rest ∧ first ≠ '"' := by
  cases hpiece with
  | raw hquote _ _ => exact ⟨_, _, rfl, hquote⟩
  | short _ => exact ⟨_, _, rfl, by decide⟩
  | code _ => exact ⟨_, _, rfl, by decide⟩
  | pair _ _ _ _ _ _ _ => exact ⟨_, _, rfl, by decide⟩

/-- Characters that belong to the last one read are passed over. -/
theorem readText_append (content : List Char) (length : Nat) (passed text : List Char) :
    readText content length passed.length (passed ++ text) =
      readText content (length + passed.length) 0 text := by
  induction passed generalizing length with
  | nil => rfl
  | cons c passed ih =>
    show readText content (length + 1) passed.length (passed ++ text) = _
    rw [ih, List.length_cons, Nat.add_assoc, Nat.add_comm 1]

/-- The characters of a quoted text are read up to the closing quote. -/
theorem readText_of_spellsChars {chars inner : List Char} (hinner : SpellsChars chars inner)
    (rest : List Char) : ∀ (content : List Char) (length : Nat),
      readText content length 0 (inner ++ '"' :: rest) =
        (.quoted (String.ofList (content.reverse ++ chars)), length + inner.length + 1) := by
  induction hinner with
  | nil =>
    intro content length
    rw [List.append_nil]
    rfl
  | @cons c chars piece inner hpiece _ ih =>
    intro content length
    obtain ⟨first, others, rfl, hfirst⟩ := exists_cons_of_spellsChar hpiece
    obtain ⟨next, behind, hnext⟩ : ∃ next behind, inner ++ '"' :: rest = next :: behind :=
      List.exists_cons_of_ne_nil (by simp)
    have hread := readChar_of_spellsChar hpiece next behind
    rw [← hnext, List.cons_append] at hread
    rw [List.append_assoc, List.cons_append, readText, if_neg hfirst, hread]
    show readText (c :: content) (length + 1) others.length (others ++ (inner ++ '"' :: rest)) = _
    rw [readText_append, ih, List.reverse_cons, List.append_assoc, List.singleton_append,
      List.length_append, List.length_cons]
    congr 1
    omega

/-- A spelling of a text is read as that text. -/
theorem read_of_spellsText {content : String} {text : List Char} (htext : SpellsText content text)
    (rest : List Char) : read (text ++ rest) = (.quoted content, text.length) := by
  cases htext with
  | @quoted inner hinner =>
    rw [List.append_assoc, List.cons_append, List.singleton_append]
    show readText [] 1 0 (inner ++ '"' :: rest) = _
    rw [readText_of_spellsChars hinner, List.reverse_nil, List.nil_append, String.ofList_toList,
      List.length_append, List.length_cons, List.length_singleton, Nat.add_comm 1]

/-- A spelling of a text does not begin with white space. -/
theorem exists_cons_of_spellsText {content : String} {text : List Char}
    (htext : SpellsText content text) : ∃ c rest, text = c :: rest ∧ isSpace c = false := by
  cases htext with
  | quoted _ => exact ⟨'"', _, rfl, rfl⟩

/-! ## Integers -/

/-- A text that cannot go on with a number. -/
def Ends (rest : List Char) : Prop :=
  ∀ c, rest.head? = some c → isDecimalDigit c = false ∧ c ≠ '.' ∧ c ≠ 'e' ∧ c ≠ 'E'

theorem isDecimalDigit_of_mem_toDigits {number : Nat} {c : Char}
    (hc : c ∈ Nat.toDigits 10 number) : isDecimalDigit c = true := by
  have hdigit := Char.isDigit_iff_toNat.mp (Nat.isDigit_of_mem_toDigits (by decide) (by decide) hc)
  exact Bool.and_eq_true_iff.mpr ⟨decide_eq_true hdigit.1, decide_eq_true hdigit.2⟩

theorem exists_cons_of_toDigits (number : Nat) : ∃ c digits, Nat.toDigits 10 number = c :: digits ∧
    isDecimalDigit c = true := by
  obtain ⟨c, digits, hdigits⟩ := List.exists_cons_of_ne_nil
    (Nat.toDigits_ne_nil : Nat.toDigits 10 number ≠ [])
  exact ⟨c, digits, hdigits, isDecimalDigit_of_mem_toDigits (hdigits ▸ List.mem_cons_self)⟩

/-- A digit is none of the characters that are no digits. -/
theorem ne_of_isDecimalDigit {c d : Char} (hc : isDecimalDigit c = true)
    (hd : isDecimalDigit d = false) : c ≠ d := by
  rintro rfl
  rw [hd] at hc
  cases hc

/-- The digits of a number have no leading zero, unless it is zero. -/
theorem head?_toDigits_ne_zero {number : Nat} (hnumber : number ≠ 0) :
    (Nat.toDigits 10 number).head? ≠ some '0' := by
  induction number using Nat.strongRecOn with
  | ind number ih =>
    rw [Nat.toDigits_eq_if (by decide)]
    by_cases hsmall : number < 10
    · have hall : ∀ digit < 10, digit ≠ 0 → digit.digitChar ≠ '0' := by decide
      rw [if_pos hsmall, List.head?_cons]
      exact fun hzero => hall number hsmall hnumber (Option.some.inj hzero)
    · obtain ⟨first, digits, hdigits, _⟩ := exists_cons_of_toDigits (number / 10)
      have hshorter := ih (number / 10) (by omega) (by omega)
      rw [hdigits] at hshorter
      rw [if_neg hsmall, hdigits]
      exact hshorter

theorem valueOfDigits_toDigits (number : Nat) :
    valueOfDigits (Nat.toDigits 10 number) = number := by
  have hvalue : valueOfDigits (Nat.toDigits 10 number) =
      Nat.ofDigitChars 10 (Nat.toDigits 10 number) 0 := by
    rw [valueOfDigits, Text.ofDigits, List.foldl_map]
    rfl
  rw [hvalue, Nat.ofDigitChars_ten_toDigits]

/-- The digits of a number are read to their end. -/
theorem wholeDigits_toDigits (number : Nat) {rest : List Char} (hrest : Ends rest) :
    wholeDigits (Nat.toDigits 10 number ++ rest) = Nat.toDigits 10 number := by
  by_cases hnumber : number = 0
  · rw [hnumber]
    rfl
  · have hhead := head?_toDigits_ne_zero hnumber
    obtain ⟨first, digits, hdigits, _⟩ := exists_cons_of_toDigits number
    have hfirst : first ≠ '0' := by
      rintro rfl
      exact hhead (by rw [hdigits]; rfl)
    have hwhole : wholeDigits (first :: digits ++ rest) =
        (first :: digits ++ rest).takeWhile isDecimalDigit := by
      rw [List.cons_append]
      unfold wholeDigits
      split
      · rename_i heq
        exact (hfirst (List.cons.inj heq).1).elim
      · rfl
    have hend : rest.takeWhile isDecimalDigit = [] := by
      cases rest with
      | nil => rfl
      | cons c rest =>
        have hc := (hrest c rfl).1
        rw [List.takeWhile_cons_of_neg (by rw [hc]; decide)]
    rw [hdigits, hwhole, List.takeWhile_append_of_pos, hend, List.append_nil]
    intro c hc
    exact isDecimalDigit_of_mem_toDigits (hdigits ▸ hc)

theorem fractionDigits_of_ends {rest : List Char} (hrest : Ends rest) :
    fractionDigits rest = [] := by
  unfold fractionDigits
  split
  · exact ((hrest '.' rfl).2.1 rfl).elim
  · rfl

theorem readExponent?_of_ends {rest : List Char} (hrest : Ends rest) :
    readExponent? rest = none := by
  cases rest with
  | nil => rfl
  | cons c rest =>
    obtain ⟨_, _, he, hE⟩ := hrest c rfl
    rw [readExponent?, if_neg (not_or.mpr ⟨he, hE⟩)]

/-- The digits of a number are read as an integer, and negated behind a minus sign. -/
theorem readNumber_toDigits {number : Nat} (hlimit : (Nat.toDigits 10 number).length ≤ 4300)
    {rest : List Char} (hrest : Ends rest) :
    readNumber (Nat.toDigits 10 number ++ rest) =
        (.plain (.int number), (Nat.toDigits 10 number).length) ∧
      readNumber ('-' :: Nat.toDigits 10 number ++ rest) =
        (.plain (.int (-number)), (Nat.toDigits 10 number).length + 1) := by
  have hwhole := wholeDigits_toDigits number hrest
  have hvalue := valueOfDigits_toDigits number
  have hdrop : (Nat.toDigits 10 number ++ rest).drop (Nat.toDigits 10 number).length = rest :=
    List.drop_left
  have hlong : ¬ Text.digitLimit < (Nat.toDigits 10 number).length := Nat.not_lt.mpr hlimit
  have hne : (Nat.toDigits 10 number).isEmpty = false := by
    rw [List.isEmpty_eq_false_iff]
    exact Nat.toDigits_ne_nil
  have hminus : (Nat.toDigits 10 number ++ rest).head? ≠ some '-' := by
    obtain ⟨first, digits, hdigits, hfirst⟩ := exists_cons_of_toDigits number
    rw [hdigits, List.cons_append, List.head?_cons]
    exact fun hminus => ne_of_isDecimalDigit hfirst (by decide) (Option.some.inj hminus)
  constructor
  · simp only [readNumber, hminus, Bool.false_eq_true, if_false, List.drop_zero,
      hwhole, hne, Nat.zero_add, hdrop, fractionDigits_of_ends hrest, List.isEmpty_nil, if_true,
      readExponent?_of_ends hrest, hlong, hvalue]
  · simp only [readNumber, List.cons_append, List.head?_cons, if_true,
      List.drop_succ_cons, List.drop_zero, hwhole, hne, Bool.false_eq_true, if_false,
      Nat.add_comm 1, hdrop, fractionDigits_of_ends hrest, List.isEmpty_nil,
      readExponent?_of_ends hrest, hlong, hvalue]

/-- A text that begins like a number, and no word with it, is read as a number. -/
theorem read_eq_readNumber {c : Char} {text : List Char} (hc : isDecimalDigit c = true ∨ c = '-')
    (hword : ∀ word ∈ words, word.1.isPrefixOf (c :: text) = false) :
    read (c :: text) = readNumber (c :: text) := by
  have hnot {d : Char} (hd : isDecimalDigit d = false) (hminus : d ≠ '-') : c ≠ d := by
    rintro rfl
    rcases hc with hc | hc
    · exact ne_of_isDecimalDigit hc hd rfl
    · exact hminus hc
  have hnone : words.find? (·.1.isPrefixOf (c :: text)) = none := by
    refine List.find?_eq_none.mpr fun word hmem => ?_
    rw [hword word hmem]
    exact Bool.false_ne_true
  unfold read
  split
  case h_8 => rw [hnone]
  all_goals
    rename_i heq
    exact (hnot (by decide) (by decide) (List.cons.inj heq).1).elim

/-- No word begins with a digit, or with a minus sign and a digit. -/
theorem isPrefixOf_eq_false {word : List Char × Json} (hword : word ∈ words) {c : Char}
    (hc : isDecimalDigit c = true) (text : List Char) :
    word.1.isPrefixOf (c :: text) = false ∧ word.1.isPrefixOf ('-' :: c :: text) = false := by
  have hne {d : Char} (hd : isDecimalDigit d = false) : (d == c) = false :=
    beq_eq_false_iff_ne.mpr (ne_of_isDecimalDigit hc hd).symm
  simp only [words, List.mem_cons, List.not_mem_nil, or_false] at hword
  constructor
  · rcases hword with rfl | rfl | rfl | rfl | rfl | rfl <;>
      rw [List.isPrefixOf_cons_cons, hne (by decide), Bool.false_and]
  · rcases hword with rfl | rfl | rfl | rfl | rfl | rfl
    case inr.inr.inr.inr.inr =>
      rw [List.isPrefixOf_cons_cons, List.isPrefixOf_cons_cons, hne (by decide), Bool.false_and,
        Bool.and_false]
    all_goals rfl

/-- A spelling of an integer does not begin with white space. -/
theorem exists_cons_of_spellsInteger {number : Int} {text : List Char}
    (htext : SpellsInteger number text) : ∃ c rest, text = c :: rest ∧ isSpace c = false := by
  cases htext with
  | @plain number _ =>
    obtain ⟨c, digits, hdigits, hc⟩ := exists_cons_of_toDigits number
    refine ⟨c, digits, hdigits, ?_⟩
    have hne {d : Char} (hd : isDecimalDigit d = false) : decide (c = d) = false :=
      decide_eq_false (ne_of_isDecimalDigit hc hd)
    rw [isSpace, hne (by decide), hne (by decide), hne (by decide), hne (by decide)]
    rfl
  | negated _ => exact ⟨'-', _, rfl, rfl⟩

/-- A spelling of an integer is read as that integer. -/
theorem read_of_spellsInteger {number : Int} {text rest : List Char}
    (htext : SpellsInteger number text) (hrest : Ends rest) :
    read (text ++ rest) = (.plain (.int number), text.length) := by
  cases htext with
  | @plain number hlimit =>
    obtain ⟨c, digits, hdigits, hc⟩ := exists_cons_of_toDigits number
    have hnumber := (readNumber_toDigits hlimit hrest).1
    rw [hdigits, List.cons_append] at hnumber ⊢
    rw [read_eq_readNumber (.inl hc) fun word hword => (isPrefixOf_eq_false hword hc _).1]
    exact hnumber
  | @negated number hlimit =>
    obtain ⟨c, digits, hdigits, hc⟩ := exists_cons_of_toDigits number
    have hnumber := (readNumber_toDigits hlimit hrest).2
    rw [hdigits, List.cons_append, List.cons_append] at hnumber ⊢
    rw [read_eq_readNumber (.inr rfl) fun word hword => (isPrefixOf_eq_false hword hc _).2]
    exact hnumber

end EnumBindings.Token
