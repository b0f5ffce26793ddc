import EnumBindings.Proofs.Json.LongIntegers
import EnumBindings.Proofs.Json.Scanning
import EnumBindings.Proofs.Text.FirstLine

/-!
# Between the quotes

What may stand between the quotes of a text that can be read, code by code. Nothing behind the
closing quote has a part in how the text is read, although the reader looks ahead for the second
half of a pair. Since no line ends between the quotes, a quoted text is read from the first line
alone; only a broken one may be broken there in another way.
-/

namespace EnumBindings.Token

open Text (firstLine isReturn)

variable {c char : Char} {code size : Nat} {text inner rest : List Char}

/-- A token, unless it is broken. -/
def unbroken? : Token → Option Token
  | .broken _ => none
  | token => some token

/-- A token with its length, unless it is broken. -/
def whole? (found : Token × Nat) : Option (Token × Nat) :=
  found.1.unbroken?.map fun token => (token, found.2)

theorem unbroken?_eq_some_iff {token known : Token} :
    token.unbroken? = some known ↔ token = known ∧ ∀ cause, token ≠ .broken cause := by
  cases token with
  | broken cause => exact ⟨nofun, fun h => absurd rfl (h.2 cause)⟩
  | _ => exact ⟨fun h => ⟨Option.some.inj h, nofun⟩, fun h => congrArg some h.1⟩

theorem whole?_eq_some_iff {found : Token × Nat} {token : Token} {size : Nat} :
    whole? found = some (token, size) ↔ found.1.unbroken? = some token ∧ found.2 = size := by
  rw [whole?, Option.map_eq_some_iff]
  constructor
  · rintro ⟨known, hknown, heq⟩
    obtain ⟨rfl, rfl⟩ := Prod.mk.inj heq
    exact ⟨hknown, rfl⟩
  · rintro ⟨hknown, rfl⟩
    exact ⟨token, hknown, rfl⟩

/-- What may stand between the quotes of a text that can be read: characters that stand for
themselves, short escapes, and codes of four hexadecimal digits. -/
inductive Inner : List Char → Prop
  | nil : Inner []
  | raw {c : Char} {inner : List Char} : c ≠ '"' → c ≠ '\\' → 0x1F < c.toNat → Inner inner →
      Inner (c :: inner)
  | short {c char : Char} {inner : List Char} : shortEscapes.lookup c = some char → Inner inner →
      Inner ('\\' :: c :: inner)
  | code {a b c d : Char} {code : Nat} {inner : List Char} : hexValue4? a b c d = some code →
      Inner inner → Inner ('\\' :: 'u' :: a :: b :: c :: d :: inner)

/-- The letter before a code is no short escape. -/
theorem ne_of_shortEscape (hshort : shortEscapes.lookup c = some char) : c ≠ 'u' := by
  rintro rfl
  cases hshort

/-! ## What is read may stand there -/

/-- What a backslash and a code stand for is the code, or a pair of two codes. -/
theorem readCode_eq_ok (hread : readCode code text = .ok (char, size)) :
    size = 6 ∨ size = 12 ∧ ∃ a b c d low rest, text = '\\' :: 'u' :: a :: b :: c :: d :: rest ∧
      hexValue4? a b c d = some low := by
  unfold readCode at hread
  split at hread
  · split at hread
    · split at hread
      · cases hread
      · rename_i low hlow
        split at hread
        · obtain ⟨-, rfl⟩ := Prod.mk.inj (Except.ok.inj hread)
          exact .inr ⟨rfl, _, _, _, _, low, _, rfl, hlow⟩
        · exact .inl (Prod.mk.inj (Except.ok.inj hread)).2.symm
    · exact .inl (Prod.mk.inj (Except.ok.inj hread)).2.symm
  · exact .inl (Prod.mk.inj (Except.ok.inj hread)).2.symm

/-- The characters that are read as one may stand between quotes. -/
theorem exists_piece_of_readChar (hquote : c ≠ '"')
    (hread : readChar (c :: text) = .ok (char, size)) :
    ∃ passed rest, text = passed ++ rest ∧ passed.length = size - 1 ∧
      ∀ inner, Inner inner → Inner (c :: passed ++ inner) := by
  rw [readChar] at hread
  by_cases hbackslash : c = '\\'
  · subst hbackslash
    rw [if_pos rfl] at hread
    unfold readEscape at hread
    split at hread
    · cases hread
    · rename_i a b c d e text
      split at hread
      · cases hread
      · rename_i code hcode
        rcases readCode_eq_ok hread with rfl | ⟨rfl, a', b', c', d', low, rest, hrest, hlow⟩
        · exact ⟨['u', a, b, c, d], e :: text, rfl, rfl, fun inner hinner => .code hcode hinner⟩
        · rw [hrest]
          exact ⟨['u', a, b, c, d, '\\', 'u', a', b', c', d'], rest, rfl, rfl,
            fun inner hinner => .code hcode (.code hlow hinner)⟩
    · cases hread
    · rename_i d rest _ _
      split at hread
      · cases hread
      · rename_i found hfound
        obtain ⟨-, rfl⟩ := Prod.mk.inj (Except.ok.inj hread)
        exact ⟨[d], rest, rfl, rfl, fun inner hinner => .short hfound hinner⟩
  · rw [if_neg hbackslash] at hread
    by_cases hcontrol : c.toNat ≤ 0x1F
    · rw [if_pos hcontrol] at hread
      cases hread
    · rw [if_neg hcontrol] at hread
      obtain ⟨-, rfl⟩ := Prod.mk.inj (Except.ok.inj hread)
      exact ⟨[], text, rfl, rfl,
        fun inner hinner => .raw hquote hbackslash (Nat.lt_of_not_le hcontrol) hinner⟩

/-- A quoted text can be read only if it has a closing quote with what may stand before it. -/
theorem exists_inner_of_readText {content : List Char} {length : Nat}
    (hread : whole? (readText content length 0 text) ≠ none) :
    ∃ inner rest, text = inner ++ '"' :: rest ∧ Inner inner := by
  induction hlength : text.length using Nat.strong_induction_on
    generalizing text content length with
  | _ n ih =>
    cases text with
    | nil => exact absurd rfl hread
    | cons c text =>
      by_cases hquote : c = '"'
      · exact ⟨[], text, by rw [hquote]; rfl, .nil⟩
      · rw [readText, if_neg hquote] at hread
        split at hread
        · rename_i char size hchar
          obtain ⟨passed, rest, rfl, hpassed, hpiece⟩ := exists_piece_of_readChar hquote hchar
          rw [← hpassed, readText_append] at hread
          have hshorter : rest.length < n := by
            rw [← hlength, List.length_cons, List.length_append]
            omega
          obtain ⟨inner, behind, rfl, hinner⟩ := ih rest.length hshorter hread rfl
          exact ⟨c :: passed ++ inner, behind, by simp, hpiece inner hinner⟩
        · exact absurd rfl hread
        · exact absurd rfl hread

/-! ## What may stand there is read -/

/-- A code is read together with the one behind it or alone, whatever follows the closing quote. -/
theorem Inner.exists_readCode (hinner : Inner inner) (code : Nat) :
    ∃ passed rest char, inner = passed ++ rest ∧ Inner rest ∧
      ∀ behind, readCode code (inner ++ '"' :: behind) = .ok (char, passed.length + 6) := by
  cases hinner with
  | nil => exact ⟨[], [], charOfCode code, rfl, .nil, fun _ => rfl⟩
  | @raw c rest hquote hbackslash hcontrol hrest =>
    refine ⟨[], _, charOfCode code, rfl, .raw hquote hbackslash hcontrol hrest, fun behind => ?_⟩
    unfold readCode
    split
    · rename_i heq
      exact absurd (List.cons.inj heq).1 hbackslash
    · rfl
  | @short c char rest hshort hrest =>
    refine ⟨[], _, charOfCode code, rfl, .short hshort hrest, fun behind => ?_⟩
    unfold readCode
    split
    · rename_i heq
      exact absurd (List.cons.inj (List.cons.inj heq).2).1 (ne_of_shortEscape hshort)
    · rfl
  | @code a b c d low rest hlow hrest =>
    -- A pair is read as one only where something follows it; here that is the quote at the latest.
    obtain ⟨next, others, hnext⟩ : ∃ (next : Char) (others : List Char → List Char),
        ∀ behind, rest ++ '"' :: behind = next :: others behind := by
      cases rest with
      | nil => exact ⟨'"', fun behind => behind, fun _ => rfl⟩
      | cons next rest => exact ⟨next, fun behind => rest ++ '"' :: behind, fun _ => rfl⟩
    cases hhigh : isHighSurrogate code with
    | false =>
      refine ⟨[], _, charOfCode code, rfl, .code hlow hrest, fun behind => ?_⟩
      simp only [List.cons_append, hnext, readCode, hhigh]
      rfl
    | true =>
      cases hislow : isLowSurrogate low with
      | false =>
        refine ⟨[], _, charOfCode code, rfl, .code hlow hrest, fun behind => ?_⟩
        simp only [List.cons_append, hnext, readCode, hhigh, hlow, hislow, if_true]
        rfl
      | true =>
        refine ⟨['\\', 'u', a, b, c, d], rest, charOfPair code low, rfl, hrest, fun behind => ?_⟩
        simp only [List.cons_append, hnext, readCode, hhigh, hlow, hislow, if_true]
        rfl

/-- What may stand between quotes begins with characters that are read as one, whatever follows the
closing quote. -/
theorem Inner.exists_readChar (hinner : Inner (c :: inner)) :
    c ≠ '"' ∧ ∃ passed rest char, inner = passed ++ rest ∧ Inner rest ∧
      ∀ behind, readChar (c :: inner ++ '"' :: behind) = .ok (char, passed.length + 1) := by
  cases hinner with
  | raw hquote hbackslash hcontrol hrest =>
    refine ⟨hquote, [], inner, c, rfl, hrest, fun behind => ?_⟩
    rw [List.cons_append, readChar, if_neg hbackslash, if_neg (by omega)]
    rfl
  | @short d char rest hshort hrest =>
    refine ⟨by decide, [d], rest, char, rfl, hrest, fun behind => ?_⟩
    have hu := ne_of_shortEscape hshort
    show readEscape (d :: (rest ++ '"' :: behind)) = _
    unfold readEscape
    split
    · rename_i heq
      cases heq
    · rename_i heq
      exact absurd (List.cons.inj heq).1 hu
    · rename_i heq
      exact absurd (List.cons.inj heq).1 hu
    · rename_i heq
      obtain ⟨rfl, rfl⟩ := List.cons.inj heq
      rw [hshort]
      rfl
  | @code a b d e code rest hcode hrest =>
    obtain ⟨passed, left, char, rfl, hleft, hread⟩ := hrest.exists_readCode code
    refine ⟨by decide, 'u' :: a :: b :: d :: e :: passed, left, char, rfl, hleft, fun behind => ?_⟩
    have hbehind := hread behind
    obtain ⟨next, others, hnext⟩ := List.exists_cons_of_ne_nil
      (show passed ++ left ++ '"' :: behind ≠ [] by simp)
    show readEscape ('u' :: a :: b :: d :: e :: (passed ++ left ++ '"' :: behind)) = _
    rw [hnext] at hbehind ⊢
    simp only [readEscape, hcode]
    exact hbehind

/-- Only the characters up to the closing quote have a part in how a quoted text is read. -/
theorem readText_inner (hinner : Inner inner) (content : List Char) (length : Nat)
    (behind other : List Char) : readText content length 0 (inner ++ '"' :: behind) =
      readText content length 0 (inner ++ '"' :: other) := by
  induction hlength : inner.length using Nat.strong_induction_on
    generalizing inner content length with
  | _ n ih =>
    cases inner with
    | nil => rfl
    | cons c inner =>
      obtain ⟨hquote, passed, rest, char, rfl, hrest, hread⟩ := hinner.exists_readChar
      have hnext (behind : List Char) :
          readText content length 0 (c :: (passed ++ rest) ++ '"' :: behind) =
            readText (char :: content) (length + 1 + passed.length) 0 (rest ++ '"' :: behind) := by
        have hfirst := hread behind
        rw [List.cons_append, List.append_assoc] at hfirst ⊢
        rw [readText, if_neg hquote, hfirst]
        exact readText_append (char :: content) (length + 1) passed (rest ++ '"' :: behind)
      have hshorter : rest.length < n := by
        rw [← hlength, List.length_cons, List.length_append]
        omega
      rw [hnext, hnext]
      exact ih rest.length hshorter hrest _ _ rfl

/-! ## The first line -/

/-- A hexadecimal digit does not end a line. -/
theorem isReturn_eq_false_of_hexValue? {value : Nat} (hvalue : hexValue? c = some value) :
    isReturn c = false := by
  rw [Text.isReturn_eq_false_iff]
  constructor <;> rintro rfl <;> cases hvalue

/-- No line ends between the quotes of a text that can be read. -/
theorem Inner.isReturn_eq_false (hinner : Inner inner) : ∀ c ∈ inner, isReturn c = false := by
  have hescape : isReturn '\\' = false ∧ isReturn 'u' = false := ⟨rfl, rfl⟩
  induction hinner with
  | nil => exact List.forall_mem_nil _
  | @raw c rest _ _ hcontrol _ ih =>
    refine List.forall_mem_cons.mpr ⟨Text.isReturn_eq_false_iff.mpr ?_, ih⟩
    constructor <;> rintro rfl <;> exact absurd hcontrol (by decide)
  | @short c char rest hshort _ ih =>
    have hc : isReturn c = false := by
      rw [Text.isReturn_eq_false_iff]
      constructor <;> rintro rfl <;> cases hshort
    simpa [hescape, hc] using ih
  | @code a b c d code rest hcode _ ih =>
    simp only [hexValue4?, Option.bind_eq_bind, Option.bind_eq_some_iff] at hcode
    obtain ⟨_, ha, _, hb, _, hc, _, hd, _⟩ := hcode
    simpa [hescape, isReturn_eq_false_of_hexValue? ha, isReturn_eq_false_of_hexValue? hb,
      isReturn_eq_false_of_hexValue? hc, isReturn_eq_false_of_hexValue? hd] using ih

/-- A quoted text is read as it is read from the first line. -/
theorem whole?_readText_firstLine (content : List Char) (length : Nat) (text : List Char) :
    whole? (readText content length 0 (firstLine text)) =
      whole? (readText content length 0 text) := by
  by_cases hclosed : ∃ inner rest, text = inner ++ '"' :: rest ∧ Inner inner
  · obtain ⟨inner, rest, rfl, hinner⟩ := hclosed
    have hline : firstLine (inner ++ '"' :: rest) = inner ++ '"' :: firstLine rest := by
      rw [Text.firstLine_append hinner.isReturn_eq_false, Text.firstLine_cons rfl]
    rw [hline, readText_inner hinner content length _ rest]
  · have hnone : whole? (readText content length 0 text) = none := by
      by_contra hread
      exact hclosed (exists_inner_of_readText hread)
    rw [hnone]
    by_contra hread
    obtain ⟨inner, rest, hline, hinner⟩ := exists_inner_of_readText hread
    obtain ⟨behind, hbehind⟩ : firstLine text <+: text := List.takeWhile_prefix _
    exact hclosed ⟨inner, rest ++ behind, by rw [← hbehind, hline]; simp, hinner⟩

/-- A quoted text is no longer than the text that it is read from. -/
theorem length_readText_le (content : List Char) (length skip : Nat) (text : List Char) :
    (readText content length skip text).2 ≤ length + text.length := by
  induction text generalizing content length skip with
  | nil => cases skip <;> exact Nat.le_refl _
  | cons c text ih =>
    cases skip with
    | succ skip =>
      have hrest := ih content (length + 1) skip
      rw [readText, List.length_cons]
      omega
    | zero =>
      rw [readText, List.length_cons]
      split
      · show length + 1 ≤ _
        omega
      · split
        · rename_i char size _
          have hrest := ih (char :: content) (length + 1) (size - 1)
          omega
        · exact Nat.le_add_right _ _
        · exact Nat.le_add_right _ _

end EnumBindings.Token
