import EnumBindings.Proofs.Json.Machine
import EnumBindings.Proofs.Text.Values
import Mathlib.Data.List.Infix
import Mathlib.Data.List.TakeWhile

/-!
# Integers that are too long

An integer of too many digits has an error of its own. Where this error is reported, the text has a
row of so many digits in it, and they are more than an integer may have. So no integer of a document
that is read is too long to be written.
-/

namespace EnumBindings

/-- A text with a row of so many decimal digits in it. -/
def HasDigitRow (text : List Char) (count : Nat) : Prop :=
  ∃ row, row <:+: text ∧ row.length = count ∧ ∀ c ∈ row, c.isDigit = true

/-- A row within a part of a text is within the text. -/
theorem HasDigitRow.within {part text : List Char} {count : Nat} (hrow : HasDigitRow part count)
    (hpart : part <:+: text) : HasDigitRow text count := by
  obtain ⟨row, hinfix, hlength, hdigits⟩ := hrow
  exact ⟨row, hinfix.trans hpart, hlength, hdigits⟩

/-- A document with an integer in it. -/
inductive Json.HasInteger (value : Int) : Json → Prop
  | int : HasInteger value (.int value)
  | list {items : List Json} {item : Json} :
      item ∈ items → HasInteger value item → HasInteger value (.list items)
  | object {fields : List (String × Json)} {field : String × Json} :
      field ∈ fields → HasInteger value field.2 → HasInteger value (.object fields)

namespace Token

/-- The digits before the point are digits at the front of the text. -/
theorem wholeDigits_prefix (text : List Char) :
    wholeDigits text <+: text ∧ ∀ c ∈ wholeDigits text, c.isDigit = true := by
  unfold wholeDigits
  split
  · exact ⟨List.prefix_append ['0'] _, List.forall_mem_singleton.mpr rfl⟩
  · refine ⟨List.takeWhile_prefix _, ?_⟩
    intro c hc
    have hdigit : isDecimalDigit c = true := List.mem_takeWhile_imp hc
    obtain ⟨hlow, hhigh⟩ := Bool.and_eq_true_iff.mp hdigit
    exact Char.isDigit_iff_toNat.mpr ⟨of_decide_eq_true hlow, of_decide_eq_true hhigh⟩

/-- A number is too long if there are too many digits before its point. -/
theorem hasDigitRow_of_readNumber {text : List Char} {digits length : Nat}
    (hread : readNumber text = (.broken (.longInteger digits), length)) :
    HasDigitRow text digits ∧ Text.digitLimit < digits := by
  unfold readNumber at hread
  simp only at hread
  generalize (if text.head? = some '-' then 1 else 0) = sign at hread
  obtain ⟨hwhole, hdigits⟩ := wholeDigits_prefix (text.drop sign)
  split at hread
  · cases hread
  · split at hread
    · split at hread
      · rename_i hlong
        cases hread
        exact ⟨⟨_, hwhole.isInfix.trans (List.drop_suffix _ _).isInfix, rfl, hdigits⟩, hlong⟩
      · cases hread
    · cases hread
    · cases hread

/-- A number that is read as an integer is not too long. -/
theorem natAbs_lt_of_readNumber {text : List Char} {value : Json} {length : Nat} {number : Int}
    (hread : readNumber text = (.plain value, length)) (hnumber : value.HasInteger number) :
    number.natAbs < 10 ^ Text.digitLimit := by
  unfold readNumber at hread
  simp only at hread
  generalize (if text.head? = some '-' then 1 else 0) = sign at hread
  obtain ⟨_, hdigits⟩ := wholeDigits_prefix (text.drop sign)
  split at hread
  · cases hread
  · split at hread
    · split at hread
      · cases hread
      · rename_i hshort
        have hbound : valueOfDigits (wholeDigits (text.drop sign)) < 10 ^ Text.digitLimit := by
          refine Nat.lt_of_lt_of_le (Text.ofDigits_lt ?_) (Nat.pow_le_pow_right (by decide) ?_)
          · intro digit hdigit
            obtain ⟨c, hc, rfl⟩ := List.mem_map.mp hdigit
            have hrange : 48 ≤ c.toNat ∧ c.toNat ≤ 57 := Char.isDigit_iff_toNat.mp (hdigits c hc)
            omega
          · rw [List.length_map]
            exact Nat.not_lt.mp hshort
        cases hread
        cases hnumber
        split
        · rwa [Int.natAbs_neg]
        · exact hbound
    · cases hread
      cases hnumber
    · cases hread
      cases hnumber

/-- What begins with a quote is a quoted text, whole or broken. -/
theorem readText_eq (text : List Char) :
    ∀ (content : List Char) (length skip : Nat),
      (∃ found, (readText content length skip text).1 = .quoted found) ∨
        ∃ fault ahead, (readText content length skip text).1 = .broken (.text fault ahead) := by
  induction text with
  | nil =>
    intro content length skip
    cases skip <;> exact Or.inr ⟨_, _, rfl⟩
  | cons c text ih =>
    intro content length skip
    cases skip with
    | succ skip => exact ih content (length + 1) skip
    | zero =>
      rw [readText]
      split
      · exact Or.inl ⟨_, rfl⟩
      · split
        · exact ih _ _ _
        · exact Or.inr ⟨_, _, rfl⟩
        · exact Or.inr ⟨_, _, rfl⟩

/-- A quoted text is no other token. -/
theorem readText_ne {token : Token} {size : Nat} (hquoted : ∀ found, token ≠ .quoted found)
    (hbroken : ∀ fault ahead, token ≠ .broken (.text fault ahead)) (text content : List Char)
    (length skip : Nat) : readText content length skip text ≠ (token, size) := by
  intro hread
  rcases readText_eq text content length skip with ⟨found, hfound⟩ | ⟨fault, ahead, hfound⟩
  · exact hquoted found (by rw [← hfound, hread])
  · exact hbroken fault ahead (by rw [← hfound, hread])

/-- A token is too long an integer if the text begins with a number that is. -/
theorem hasDigitRow_of_read {text : List Char} {digits length : Nat}
    (hread : read text = (.broken (.longInteger digits), length)) :
    HasDigitRow text digits ∧ Text.digitLimit < digits := by
  unfold read at hread
  split at hread
  case h_1 =>
    refine (readText_ne ?_ ?_ _ _ _ _ hread).elim
    · exact fun _ => Token.noConfusion
    · rintro _ _ ⟨⟩
  case h_8 =>
    split at hread
    · cases hread
    · exact hasDigitRow_of_readNumber hread
  all_goals cases hread

/-- An integer that is a token is not too long. -/
theorem natAbs_lt_of_read {text : List Char} {value : Json} {length : Nat} {number : Int}
    (hread : read text = (.plain value, length)) (hnumber : value.HasInteger number) :
    number.natAbs < 10 ^ Text.digitLimit := by
  unfold read at hread
  split at hread
  case h_1 =>
    refine (readText_ne ?_ ?_ _ _ _ _ hread).elim
    · exact fun _ => Token.noConfusion
    · exact fun _ _ => Token.noConfusion
  case h_8 =>
    split at hread
    · rename_i word known hword
      obtain rfl : known = value := Token.plain.inj (Prod.mk.inj hread).1
      have hmem := List.mem_of_find?_eq_some hword
      simp only [words, List.mem_cons, Prod.mk.injEq, List.not_mem_nil, or_false] at hmem
      -- A fixed word stands for no integer.
      rcases hmem with h | h | h | h | h | h <;> rw [h.2] at hnumber <;> cases hnumber
    · exact natAbs_lt_of_readNumber hread hnumber
  all_goals cases hread

/-- Every token that is found is read from a part of the text. -/
theorem exists_read_of_mem_scan {text : List Char} {place : Nat} {token : Token} :
    ∀ {offset skip : Nat}, (place, token) ∈ scan offset skip text →
      ∃ part length, part <:+: text ∧ read part = (token, length) := by
  induction text with
  | nil =>
    intro offset skip hmem
    cases skip <;> cases hmem
  | cons c text ih =>
    have hlater {offset skip : Nat} (hmem : (place, token) ∈ scan offset skip text) :
        ∃ part length, part <:+: c :: text ∧ read part = (token, length) := by
      obtain ⟨part, length, hpart, hread⟩ := ih hmem
      exact ⟨part, length, hpart.trans (List.infix_cons List.infix_rfl), hread⟩
    intro offset skip hmem
    cases skip with
    | succ skip => exact hlater hmem
    | zero =>
      rw [scan] at hmem
      split at hmem
      · exact hlater hmem
      · split at hmem
        · rename_i cause length hread
          obtain ⟨-, rfl⟩ := Prod.mk.inj (List.mem_singleton.mp hmem)
          exact ⟨_, length, List.infix_rfl, hread⟩
        · rename_i found length hwhole hread
          rcases List.mem_cons.mp hmem with hfirst | hrest
          · obtain ⟨-, rfl⟩ := Prod.mk.inj hfirst
            exact ⟨_, length, List.infix_rfl, hread⟩
          · exact hlater hrest

end Token

/-- The machine reports too long an integer only if it is handed one. -/
theorem Reading.mem_of_run_eq {limits : Limits} {stop digits : Nat}
    {tokens : List (Nat × Token)} :
    ∀ {state : Reading}, run limits stop state tokens = .error (.longInteger digits) →
      ∃ offset, (offset, .broken (.longInteger digits)) ∈ tokens := by
  induction tokens with
  | nil =>
    intro state hrun
    obtain ⟨fault, ⟨⟩⟩ := exists_malformed_of_run_nil hrun
  | cons first rest ih =>
    obtain ⟨offset, token⟩ := first
    intro state hrun
    rcases run_cons_eq_error hrun with hrefused | ⟨next, hstep, ⟨_, ⟨⟩⟩ | hrest⟩
    · rcases refuse_cases state offset token with ⟨_, _, hother⟩ | ⟨known, rfl, hother⟩
      · cases hrefused.trans hother
      · cases hrefused.trans hother
        exact ⟨offset, List.mem_cons_self⟩
    · obtain ⟨place, hmem⟩ := ih hrest
      exact ⟨place, List.mem_cons_of_mem _ hmem⟩

/-- Too long an integer is reported only where one stands: the text has a row of so many digits, and
they are more than an integer may have. -/
theorem Json.hasDigitRow_of_read {text : List Char} {limits : Limits} {digits : Nat}
    (hread : Json.read text limits = .error (.longInteger digits)) :
    HasDigitRow text digits ∧ Text.digitLimit < digits := by
  unfold Json.read at hread
  split at hread
  · cases hread
  · obtain ⟨offset, hmem⟩ := Reading.mem_of_run_eq hread
    obtain ⟨part, length, hpart, hbroken⟩ := Token.exists_read_of_mem_scan hmem
    exact (Token.hasDigitRow_of_read hbroken).imp_left (·.within hpart)

/-- Lists and objects have the integers of their parts. -/
theorem Json.passedOn_hasInteger (allowed : Int → Prop) :
    Json.PassedOn fun document => ∀ value, document.HasInteger value → allowed value where
  text := by
    rintro content value ⟨⟩
  list := by
    intro items hitems value hvalue
    cases hvalue with
    | list hitem hvalue => exact hitems _ hitem value hvalue
  object := by
    intro fields hfields value hvalue
    cases hvalue with
    | object hfield hvalue => exact hfields _ hfield value hvalue

/-- No integer of a document that is read is too long to be written. -/
theorem Json.allowsNumber_of_read {text : List Char} {limits : Limits} {document : Json}
    (hread : Json.read text limits = .ok document) {value : Int}
    (hvalue : document.HasInteger value) (nesting : Nat) :
    (Limits.ordinary nesting).allowsNumber value = true := by
  unfold Json.read at hread
  split at hread
  · cases hread
  · rw [Text.allowsNumber_ordinary_iff]
    have hstart : (Reading.atValue []).Holds fun document =>
        ∀ value, document.HasInteger value → value.natAbs < 10 ^ Text.digitLimit :=
      List.forall_mem_nil _
    refine Reading.holds_of_run (Json.passedOn_hasInteger _) ?_ hstart hread value hvalue
    intro offset plain hmem number hnumber
    obtain ⟨part, length, _, hplain⟩ := Token.exists_read_of_mem_scan hmem
    exact Token.natAbs_lt_of_read hplain hnumber

end EnumBindings
