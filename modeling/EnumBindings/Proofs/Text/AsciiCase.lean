import EnumBindings.Text.Case
import Mathlib.Data.List.Basic

/-!
# The case of ASCII letters

All runs and expansions of the case maps lie beyond ASCII, but for the first run of each. An ASCII
text is written in lower or upper case character by character.
-/

namespace EnumBindings.Text

/-- What holds of all ASCII characters is decided one by one. -/
theorem of_forall_ascii {p : Char → Bool} {c : Char}
    (hall : (List.range 128).all (fun code => p (Char.ofNat code)) = true)
    (hc : c.toNat < 128) : p c = true := by
  have hcode := List.all_eq_true.mp hall c.toNat (List.mem_range.mpr hc)
  rwa [Char.ofNat_toNat] at hcode

/-- The image of a character in a run, or the character where it lies outside. -/
def CaseRun.apply (run : CaseRun) (c : Char) : Char :=
  ((run.image? c.toNat).map Char.ofNat).getD c

variable {c : Char} {first : CaseRun} {runs : List CaseRun} {expansions : List (Nat × List Nat)}

/-- An ASCII character is taken to its image in the only run that is not beyond ASCII. -/
theorem changeCase_of_ascii (hruns : runs.all (128 ≤ ·.first) = true)
    (hexpansions : expansions.all (128 ≤ ·.1) = true) (hc : c.toNat < 128) :
    changeCase (first :: runs) expansions c = [first.apply c] := by
  have hnone : runs.findSome? (·.image? c.toNat) = none := by
    rw [List.findSome?_eq_none_iff]
    intro run hrun
    have hfirst : 128 ≤ run.first := of_decide_eq_true (List.all_eq_true.mp hruns run hrun)
    rw [CaseRun.image?, if_neg (by omega)]
  have hfind : (first :: runs).findSome? (·.image? c.toNat) = first.image? c.toNat := by
    rw [List.findSome?_cons, hnone]
    cases first.image? c.toNat <;> rfl
  have hlookup : expansions.lookup c.toNat = none := by
    rw [List.lookup_eq_none_iff]
    intro expansion hexpansion
    have hbeyond : 128 ≤ expansion.1 :=
      of_decide_eq_true (List.all_eq_true.mp hexpansions expansion hexpansion)
    rw [bne_iff_ne]
    omega
  unfold changeCase CaseRun.apply
  rw [hfind]
  cases first.image? c.toNat with
  | some code => rfl
  | none => rw [hlookup]; rfl

/-- An ASCII character in lower case. -/
theorem lowerChar_of_ascii (hc : c.toNat < 128) : lowerChar c = [c.toLower] := by
  have hchange : lowerChar c = [(CaseRun.mk 0x41 0x5A 1 0x61).apply c] :=
    changeCase_of_ascii (by decide) (by decide) hc
  have hall : decide ((CaseRun.mk 0x41 0x5A 1 0x61).apply c = c.toLower) = true :=
    of_forall_ascii (p := fun c => decide ((CaseRun.mk 0x41 0x5A 1 0x61).apply c = c.toLower))
      (by decide) hc
  rw [hchange, of_decide_eq_true hall]

/-- An ASCII character in upper case. -/
theorem upperChar_of_ascii (hc : c.toNat < 128) : upperChar c = [c.toUpper] := by
  have hchange : upperChar c = [(CaseRun.mk 0x61 0x7A 1 0x41).apply c] :=
    changeCase_of_ascii (by decide) (by decide) hc
  have hall : decide ((CaseRun.mk 0x61 0x7A 1 0x41).apply c = c.toUpper) = true :=
    of_forall_ascii (p := fun c => decide ((CaseRun.mk 0x61 0x7A 1 0x41).apply c = c.toUpper))
      (by decide +kernel) hc
  rw [hchange, of_decide_eq_true hall]

variable {text : List Char}

/-- An ASCII text in lower case. -/
theorem lower_of_ascii (htext : ∀ c ∈ text, c.toNat < 128) :
    lower text = text.map Char.toLower := by
  rw [lower, ← List.flatMap_pure_eq_map]
  exact List.flatMap_congr fun c hc => lowerChar_of_ascii (htext c hc)

/-- An ASCII text in upper case. -/
theorem upper_of_ascii (htext : ∀ c ∈ text, c.toNat < 128) :
    upper text = text.map Char.toUpper := by
  rw [upper, ← List.flatMap_pure_eq_map]
  exact List.flatMap_congr fun c hc => upperChar_of_ascii (htext c hc)

end EnumBindings.Text
