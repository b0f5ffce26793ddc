import EnumBindings.Proofs.Command.AllOrNothing
import EnumBindings.Proofs.Json.Reading
import EnumBindings.Proofs.Json.TokenLines

/-!
# Line breaks of a document

The lines of a document may end with a line feed, a carriage return or both. Its tokens are the same
but for their places, since each lies within a line, and places matter to faults only. So a text is
loaded exactly if it is loaded with line feeds for all line breaks, as it is where it is read from a
file, and then as the same enumerations.
-/

namespace EnumBindings

open Text (firstLine isReturn unifyLineBreaks)

variable {text : List Char} {token : Token}

/-! ## Tokens -/

namespace Token

/-- The tokens that have been found, without their places; of a broken one only that it is. -/
def found (tokens : List (Nat × Token)) : List (Option Token) :=
  tokens.map fun entry => entry.2.unbroken?

variable {c : Char} {size : Nat}

/-- Line breaks are white space. -/
theorem isSpace_of_isReturn (hc : isReturn c = true) : isSpace c = true := by
  rcases Text.isReturn_eq_true_iff.mp hc with rfl | rfl <;> rfl

/-- White space is passed over. -/
theorem scan_of_isSpace (hspace : isSpace c = true) (offset : Nat) (text : List Char) :
    scan offset 0 (c :: text) = scan (offset + 1) 0 text := by
  rw [scan, if_pos hspace]

/-- Where no token can be read, nothing more is found. -/
theorem found_scan_of_broken (hspace : isSpace c = false)
    (hread : whole? (read (c :: text)) = none) (offset : Nat) :
    found (scan offset 0 (c :: text)) = [none] := by
  rw [scan, if_neg (by rw [hspace]; decide)]
  cases hfirst : read (c :: text) with
  | mk token size =>
    rw [hfirst] at hread
    cases token with
    | broken cause => rfl
    | _ => cases hread

/-- Behind a token that has been read the search goes on. -/
theorem found_scan_of_whole (hspace : isSpace c = false)
    (hread : whole? (read (c :: text)) = some (token, size)) (offset : Nat) :
    ∃ behind, found (scan offset 0 (c :: text)) =
      some token :: found (scan behind 0 (text.drop (size - 1))) := by
  have hsize : size - 1 ≤ text.length := by
    have hline := (length_le_of_whole? hread).trans (List.takeWhile_prefix _).length_le
    rw [List.length_cons] at hline
    omega
  have hpassed : scan (offset + 1) (size - 1) text =
      scan (offset + 1 + (size - 1)) 0 (text.drop (size - 1)) := by
    have hscan := Reading.scan_append (offset + 1) (text.take (size - 1)) (text.drop (size - 1))
    rwa [List.take_append_drop, List.length_take_of_le hsize] at hscan
  refine ⟨offset + 1 + (size - 1), ?_⟩
  rw [scan, if_neg (by rw [hspace]; decide), ← hpassed]
  obtain ⟨htoken, rfl⟩ := whole?_eq_some_iff.mp hread
  cases hfirst : read (c :: text) with
  | mk known size =>
    rw [hfirst] at htoken
    obtain ⟨rfl, hwhole⟩ := unbroken?_eq_some_iff.mp htoken
    cases known with
    | broken cause => exact absurd rfl (hwhole cause)
    | _ => rfl

/-- Line breaks make no difference to what is found, whatever they are. -/
theorem found_scan_unifyLineBreaks (text : List Char) (offset place : Nat) :
    found (scan offset 0 (unifyLineBreaks text)) = found (scan place 0 text) := by
  induction hlength : text.length using Nat.strong_induction_on
    generalizing text offset place with
  | _ n ih =>
    cases text with
    | nil => rfl
    | cons c text =>
      rw [List.length_cons] at hlength
      by_cases hreturn : isReturn c = true
      · obtain ⟨rest, hrest, hunify⟩ := Text.exists_unifyLineBreaks_of_isReturn hreturn text
        rw [hunify, scan_of_isSpace rfl, scan_of_isSpace (isSpace_of_isReturn hreturn)]
        rcases hrest with rfl | rfl
        · exact ih text.length (by omega) text _ _ rfl
        · rw [scan_of_isSpace rfl (place + 1)]
          rw [List.length_cons] at hlength
          exact ih rest.length (by omega) rest _ _ rfl
      · have hother : isReturn c = false := by simpa using hreturn
        rw [Text.unifyLineBreaks_cons hother]
        by_cases hspace : isSpace c = true
        · rw [scan_of_isSpace hspace, scan_of_isSpace hspace]
          exact ih text.length (by omega) text _ _ rfl
        · have hspace : isSpace c = false := by simpa using hspace
          have hsame : whole? (read (c :: unifyLineBreaks text)) = whole? (read (c :: text)) := by
            rw [← Text.unifyLineBreaks_cons hother, ← whole?_read_firstLine,
              Text.firstLine_unifyLineBreaks, whole?_read_firstLine]
          cases hread : whole? (read (c :: text)) with
          | none =>
            rw [found_scan_of_broken hspace hread,
              found_scan_of_broken hspace (hsame.trans hread)]
          | some first =>
            obtain ⟨token, size⟩ := first
            obtain ⟨behind, hbehind⟩ := found_scan_of_whole hspace hread place
            obtain ⟨after, hafter⟩ := found_scan_of_whole hspace (hsame.trans hread) offset
            have hsize : size - 1 ≤ (firstLine text).length := by
              have hline := length_le_of_whole? hread
              rw [Text.firstLine_cons hother, List.length_cons] at hline
              omega
            have hshorter : (text.drop (size - 1)).length < n := by
              rw [List.length_drop]
              omega
            rw [hbehind, hafter, Text.drop_unifyLineBreaks hsize,
              ih _ hshorter (text.drop (size - 1)) after behind rfl]

end Token

/-! ## Documents -/

variable {limits : Limits}

/-- Whether the machine takes all tokens does not depend on their places. -/
theorem Reading.run_eq_ok_of_found {stop stop' : Nat} {document : Json}
    {tokens others : List (Nat × Token)} (hfound : Token.found tokens = Token.found others) :
    ∀ {state : Reading}, run limits stop state tokens = .ok document →
      run limits stop' state others = .ok document := by
  induction tokens generalizing others with
  | nil =>
    intro state hrun
    obtain rfl : others = [] := List.map_eq_nil_iff.mp hfound.symm
    rwa [run_nil_eq_ok_iff] at hrun ⊢
  | cons entry tokens ih =>
    intro state hrun
    obtain ⟨offset, token⟩ := entry
    cases others with
    | nil => cases hfound
    | cons other others =>
      obtain ⟨place, known⟩ := other
      obtain ⟨hfirst, hrest⟩ := List.cons.inj hfound
      obtain ⟨next, hstep, hdepth, hnext⟩ := run_cons_eq_ok_iff.mp hrun
      have hwhole : token.unbroken? = some token := by
        cases token with
        | broken cause =>
          rw [step?_broken] at hstep
          cases hstep
        | _ => rfl
      obtain ⟨rfl, _⟩ := Token.unbroken?_eq_some_iff.mp (hfirst.symm.trans hwhole)
      exact run_cons_eq_ok_iff.mpr ⟨next, hstep, hdepth, ih hrest hnext⟩

/-- A text is read exactly if it is with line feeds for all line breaks, and then as the same
document. -/
theorem Json.read_unifyLineBreaks {text : List Char} {document : Json} :
    Json.read (unifyLineBreaks text) limits = .ok document ↔
      Json.read text limits = .ok document := by
  have hmark : ((unifyLineBreaks text).head? = some '\uFEFF') = (text.head? = some '\uFEFF') := by
    rw [← Text.head?_firstLine_eq_iff rfl, Text.firstLine_unifyLineBreaks,
      Text.head?_firstLine_eq_iff rfl]
  have hfound := Token.found_scan_unifyLineBreaks text 0 0
  unfold Json.read
  simp only [hmark]
  split_ifs with hhead
  · constructor <;> rintro ⟨⟩
  · exact ⟨Reading.run_eq_ok_of_found hfound, Reading.run_eq_ok_of_found hfound.symm⟩

/-- The line breaks of a document make no difference, whatever the limits are. A text is loaded
exactly if it is loaded with line feeds for all line breaks, and as the same enumerations; so it is
loaded from a file as it is loaded itself. -/
theorem loadDescriptors_withLineFeeds (text : String) (enums : List EnumDescriptor)
    (limits : Limits) :
    ((loadDescriptors (.text text) limits).outcome = .ok enums ↔
      (loadDescriptors (.text (withLineFeeds text)) limits).outcome = .ok enums) ∧
    ((loadFile text.toUTF8 limits).outcome = .ok enums ↔
      (loadDescriptors (.text text) limits).outcome = .ok enums) := by
  have hsame : (loadDescriptors (.text text) limits).outcome = .ok enums ↔
      (loadDescriptors (.text (withLineFeeds text)) limits).outcome = .ok enums := by
    show (loadText text.toList limits).outcome = _ ↔
      (loadText (String.ofList (unifyLineBreaks text.toList)).toList limits).outcome = _
    rw [String.toList_ofList, outcome_loadText_eq_ok_iff, outcome_loadText_eq_ok_iff]
    simp only [Json.read_unifyLineBreaks]
  rw [loadFile_eq rfl]
  exact ⟨hsame, hsame.symm⟩

end EnumBindings
