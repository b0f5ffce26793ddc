import EnumBindings.Naming.Member
import EnumBindings.Proofs.Script.Literal
import EnumBindings.Proofs.Text.AsciiCase

/-!
# Identifiers of letters, digits and underscores

The names of a schema are identifiers whose characters are ASCII. A part of such a name is an
identifier again exactly if it is not empty and does not begin with a digit, and a name remains an
identifier when its first character is written small and other such characters are put behind it.
-/

namespace EnumBindings.Text

/-- An identifier without characters beyond ASCII. -/
def IsAsciiIdentifier (text : List Char) : Prop :=
  isIdentifier text = true ∧ text.all (·.toNat < 128) = true

instance (text : List Char) : Decidable (IsAsciiIdentifier text) :=
  inferInstanceAs (Decidable (_ ∧ _))

/-- A text that begins with a character other than a digit. -/
def BeginsName (text : List Char) : Prop :=
  ∃ c ∈ text.head?, c.isDigit = false

/-- Among the ASCII characters of identifiers only the digits cannot begin one. -/
theorem isIdentifierStart_iff_of_ascii {c : Char} (hc : c.toNat < 128)
    (hpart : isIdentifierPart c = true) : isIdentifierStart c = true ↔ c.isDigit = false := by
  have hall : (!isIdentifierPart c || (isIdentifierStart c == !c.isDigit)) = true :=
    of_forall_ascii (p := fun c =>
      !isIdentifierPart c || (isIdentifierStart c == !c.isDigit)) (by decide) hc
  simpa [hpart] using hall

/-- No digit begins an identifier. -/
theorem beginsName_of_isIdentifier {text : List Char} (htext : isIdentifier text = true) :
    BeginsName text := by
  cases text with
  | nil => cases htext
  | cons c rest =>
    obtain ⟨hstart, _⟩ := Bool.and_eq_true_iff.mp htext
    refine ⟨c, rfl, ?_⟩
    by_contra hdigit
    rw [Bool.not_eq_false] at hdigit
    have hcode : 48 ≤ c.toNat ∧ c.toNat ≤ 57 := Char.isDigit_iff_toNat.mp hdigit
    have hall : (!isIdentifierStart c || !c.isDigit) = true :=
      of_forall_ascii (p := fun c => !isIdentifierStart c || !c.isDigit) (by decide)
        (by omega)
    simp [hstart, hdigit] at hall

/-- What is left of a name is a name exactly if it is not empty and does not begin with a digit. -/
theorem isIdentifier_iff_beginsName {text rest : List Char} (htext : IsAsciiIdentifier text)
    (hrest : rest <:+: text) : isIdentifier rest = true ↔ BeginsName rest := by
  refine ⟨beginsName_of_isIdentifier, ?_⟩
  rintro ⟨c, hhead, hdigit⟩
  have hpart : ∀ d ∈ rest, isIdentifierPart d = true := fun d hd =>
    Script.isIdentifierPart_of_mem htext.1 d (hrest.subset hd)
  cases rest with
  | nil => cases hhead
  | cons d rest =>
    obtain rfl : d = c := Option.some.inj hhead
    have hcode : d.toNat < 128 := by
      simpa using List.all_eq_true.mp htext.2 d (hrest.subset List.mem_cons_self)
    rw [isIdentifier, Bool.and_eq_true]
    exact ⟨(isIdentifierStart_iff_of_ascii hcode (hpart d List.mem_cons_self)).mpr hdigit,
      List.all_eq_true.mpr fun e he => hpart e (List.mem_cons_of_mem _ he)⟩

/-- Characters of identifiers may be put behind an identifier. -/
theorem isIdentifier_append {left right : List Char} (hleft : isIdentifier left = true)
    (hright : right.all isIdentifierPart = true) : isIdentifier (left ++ right) = true := by
  cases left with
  | nil => cases hleft
  | cons c left =>
    obtain ⟨hstart, hrest⟩ := Bool.and_eq_true_iff.mp hleft
    rw [List.cons_append, isIdentifier, List.all_append, hstart, hrest, hright]
    rfl

/-- An ASCII name is still one when its first character is written small. -/
theorem isIdentifier_uncapitalize {name : String} (hname : IsAsciiIdentifier name.toList) :
    isIdentifier (uncapitalize name).toList = true := by
  unfold uncapitalize
  cases hlist : name.toList with
  | nil => rw [hlist] at hname; cases hname.1
  | cons c rest =>
    rw [hlist] at hname
    obtain ⟨hstart, hrest⟩ := Bool.and_eq_true_iff.mp hname.1
    have hcode : c.toNat < 128 := by
      simpa using List.all_eq_true.mp hname.2 c List.mem_cons_self
    have hall : (!isIdentifierStart c || isIdentifier [c.toLower]) = true :=
      of_forall_ascii (p := fun c => !isIdentifierStart c || isIdentifier [c.toLower])
        (by decide) hcode
    rw [String.toList_ofList, lowerChar_of_ascii hcode]
    exact isIdentifier_append (by simpa [hstart] using hall) hrest

end EnumBindings.Text
