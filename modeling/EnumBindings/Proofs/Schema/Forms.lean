import EnumBindings.Proofs.Json.Reading
import EnumBindings.Schema.Loading

/-!
# The two forms of a document

A document is handed in as text or already decoded. It makes no difference which of the two it is,
however the text is spelled.
-/

namespace EnumBindings

/-- The text of a document is decoded to it. -/
theorem decodeDocument_of_spellsDocument {document : Json} {text : List Char}
    (htext : SpellsDocument document text) : decodeDocument text = .ok document := by
  unfold decodeDocument
  rw [Json.read_of_spellsDocument htext]

/-- The form of a document makes no difference. What is loaded from any text of a document is what
is loaded from the document itself, with the same notices on the way: the same enumerations, or the
same error with the same names. -/
theorem loadDescriptors_text {document : Json} {text : List Char}
    (htext : SpellsDocument document text) :
    loadDescriptors (.text (String.ofList text)) = loadDescriptors (.decoded document) := by
  have hpure : (Reported.ofExcept (decodeDocument text) : Reported LoadError Json) =
      pure document := by
    rw [decodeDocument_of_spellsDocument htext]
    rfl
  have hdocument : ∀ content, document ≠ .text content := by
    cases htext with
    | value hdocument _ _ _ => exact hdocument
  rw [loadDescriptors_of_document hdocument]
  show loadText (String.ofList text).toList = (loadDocument document).mapError .descriptor
  rw [String.toList_ofList]
  unfold loadText
  rw [hpure, pure_bind]

/-- A text whose characters may stand for themselves is spelled by them. -/
theorem spellsText_of_all {content : String} {chars : List Char} (hchars : content.toList = chars)
    (hall : chars.all (fun c => c ≠ '"' ∧ c ≠ '\\' ∧ 0x20 ≤ c.toNat) = true) :
    SpellsText content ('"' :: chars ++ ['"']) := by
  refine .quoted ?_
  rw [hchars]
  clear hchars
  induction chars with
  | nil => exact .nil
  | cons c chars ih =>
    obtain ⟨hc, hall⟩ := Bool.and_eq_true_iff.mp hall
    obtain ⟨hquote, hbackslash, hcontrol⟩ := of_decide_eq_true hc
    exact .cons (.raw hquote hbackslash hcontrol) (ih hall)

/-- A document with one enumeration, whose name has a character beyond the first plane. -/
def smileDocument : Json :=
  .object [("enums", .list [.object [("name", .text "E😀"), ("values", .list [])]])]

/-- A spelling of it with white space, a character in hexadecimal digits of either case and a pair
of code units. -/
def smileText : String :=
  "\x7b\"enums\": [\x7b\"name\":\"\\u0045\\uD83d\\uDE00\",\t\"values\":[ ]\x7d]\x7d\n"

/-- The spelling is loaded as the document is. -/
theorem loadDescriptors_text_smile :
    SpellsDocument smileDocument smileText.toList ∧
      loadDescriptors (.text (String.ofList smileText.toList)) =
        loadDescriptors (.decoded smileDocument) := by
  have hnone : Gap [] := by
    intro c hc
    cases hc
  have hspace : Gap [' '] ∧ Gap ['\t'] ∧ Gap ['\n'] := by
    simp [Gap]
  have hdigit {c : Char} (value : Nat)
      (hvalue : value < 16 ∧ (c = value.digitChar ∨ c = value.digitChar.toUpper)) :
      HexDigit c value := hvalue
  have hletter : HexCode ['0', '0', '4', '5'] 'E'.toNat :=
    .digits (hdigit 0 (by decide)) (hdigit 0 (by decide)) (hdigit 4 (by decide))
      (hdigit 5 (by decide))
  have hhigh : HexCode ['D', '8', '3', 'd'] 0xD83D :=
    .digits (hdigit 13 (by decide)) (hdigit 8 (by decide)) (hdigit 3 (by decide))
      (hdigit 13 (by decide))
  have hlow : HexCode ['D', 'E', '0', '0'] 0xDE00 :=
    .digits (hdigit 13 (by decide)) (hdigit 14 (by decide)) (hdigit 0 (by decide))
      (hdigit 0 (by decide))
  have hpair : SpellsChar '😀' ('\\' :: 'u' :: ['D', '8', '3', 'd'] ++
      '\\' :: 'u' :: ['D', 'E', '0', '0']) :=
    .pair hhigh hlow (by decide) (by decide) (by decide) (by decide) (by decide)
  have hname : SpellsText "E😀" _ :=
    .quoted (show SpellsChars ['E', '😀'] _ from .cons (.code hletter) (.cons hpair .nil))
  have henum : SpellsValue (.object [("name", .text "E😀"), ("values", .list [])]) _ :=
    .object (.more hnone (@spellsText_of_all "name" _ rfl (by decide)) hnone hnone
      (.text hname) hnone
      (.last hspace.2.1 (@spellsText_of_all "values" _ rfl (by decide)) hnone hnone
        (.emptyList hspace.1) hnone))
  have htext : SpellsDocument smileDocument smileText.toList :=
    .value (fun _ => Json.noConfusion) hnone (.object (.last hnone
      (@spellsText_of_all "enums" _ rfl (by decide)) hnone
      hspace.1 (.list (.last hnone henum hnone)) hnone)) hspace.2.2
  exact ⟨htext, loadDescriptors_text htext⟩

end EnumBindings
