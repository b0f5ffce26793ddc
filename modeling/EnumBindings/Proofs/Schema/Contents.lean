import EnumBindings.Proofs.Json.LongIntegers
import EnumBindings.Proofs.Schema.Faults

/-!
# What is loaded from what is handed in

A document is handed in as it is or as text, and a decoded document that is a text is taken for one.
What is loaded is named, and its numbers are integers of the document. If nothing is loaded, that is
the fault of the document, or else of a text that holds too long an integer or is nested too deep.
-/

namespace EnumBindings

variable {content : Content} {limits : Limits} {text : List Char} {document : Json}
  {enums : List EnumDescriptor} {error : LoadError}

/-- What is handed in is a document, as it is or as a text that is decoded to it. -/
inductive Content.Holds : Content → Json → Prop
  | decoded {document : Json} (hdocument : ∀ text, document ≠ .text text) :
      Holds (.decoded document) document
  | text {content : Content} {text : String} {document : Json} (htext : content.text? = some text)
      (hdecode : decodeDocument text.toList = .ok document) : Holds content document

/-- What is handed in is a text, or else a document that is none. -/
theorem Content.text?_or_document (content : Content) :
    (∃ text, content.text? = some text) ∨
      ∃ document, content = .decoded document ∧ ∀ text, document ≠ .text text := by
  cases content with
  | text text => exact Or.inl ⟨text, rfl⟩
  | decoded document =>
    cases document with
    | text text => exact Or.inl ⟨text, rfl⟩
    | _ => exact Or.inr ⟨_, rfl, fun _ => Json.noConfusion⟩

/-! ## Texts -/

/-- A text is decoded to the document that is read from it. -/
theorem decodeDocument_eq_ok_iff :
    decodeDocument text limits = .ok document ↔ Json.read text limits = .ok document := by
  unfold decodeDocument
  cases Json.read text limits with
  | ok known => constructor <;> intro h <;> cases h <;> rfl
  | error error => cases error <;> constructor <;> rintro ⟨⟩

/-- A text that cannot be decoded is malformed, or has a row of too many digits, or is nested too
deep. -/
theorem decodeDocument_eq_error (hdecode : decodeDocument text limits = .error error) :
    (∃ fault, error = .descriptor fault) ∨
      (∃ digits, error = .longInteger digits ∧ HasDigitRow text digits ∧
        Text.digitLimit < digits) ∨
      ∃ container nesting, error = .tooDeep container ∧ limits.nesting = some nesting ∧
        NestsDeeper text nesting := by
  unfold decodeDocument at hdecode
  split at hdecode
  · cases hdecode
  · cases hdecode
    exact Or.inl ⟨_, rfl⟩
  · rename_i digits hread
    cases hdecode
    exact Or.inr (Or.inl ⟨digits, rfl, Json.hasDigitRow_of_read hread⟩)
  · rename_i container hread
    cases hdecode
    obtain ⟨nesting, hnesting, hdeeper⟩ := Json.nestsDeeper_of_read hread
    exact Or.inr (Or.inr ⟨container, nesting, rfl, hnesting, hdeeper⟩)

/-- A text is loaded if it is read, and the document then loaded. -/
theorem outcome_loadText_eq_ok_iff :
    (loadText text limits).outcome = .ok enums ↔
      ∃ document, Json.read text limits = .ok document ∧
        (loadDocument document).outcome = .ok enums := by
  unfold loadText
  rw [Reported.outcome_bind_eq_ok_iff]
  simp only [Reported.outcome_ofExcept, decodeDocument_eq_ok_iff,
    Reported.outcome_mapError_eq_ok_iff]

/-- What is loaded from a text within limits is loaded from it without them. -/
theorem outcome_loadText_unlimited (hload : (loadText text limits).outcome = .ok enums) :
    (loadText text).outcome = .ok enums := by
  obtain ⟨document, hread, hload⟩ := outcome_loadText_eq_ok_iff.mp hload
  exact outcome_loadText_eq_ok_iff.mpr ⟨document, Json.read_unlimited hread, hload⟩

/-! ## Whatever is handed in -/

/-- What is loaded within limits is loaded without them. -/
theorem outcome_loadDescriptors_unlimited
    (hload : (loadDescriptors content limits).outcome = .ok enums) :
    (loadDescriptors content).outcome = .ok enums := by
  rcases content.text?_or_document with ⟨text, htext⟩ | ⟨document, rfl, hdocument⟩
  · rw [loadDescriptors_of_text? htext] at hload ⊢
    exact outcome_loadText_unlimited hload
  · rw [loadDescriptors_of_document hdocument] at hload ⊢
    exact hload

/-- What is loaded is described by the document that is handed in. -/
theorem exists_describesDocument (hload : (loadDescriptors content limits).outcome = .ok enums) :
    ∃ document, content.Holds document ∧ DescribesDocument document enums := by
  rcases content.text?_or_document with ⟨text, htext⟩ | ⟨document, rfl, hdocument⟩
  · rw [loadDescriptors_of_text? htext] at hload
    obtain ⟨document, hread, hload⟩ :=
      outcome_loadText_eq_ok_iff.mp (outcome_loadText_unlimited hload)
    exact ⟨document, .text htext (decodeDocument_eq_ok_iff.mpr hread),
      outcome_loadDocument_eq_ok_iff.mp hload⟩
  · rw [loadDescriptors_of_document hdocument] at hload
    exact ⟨document, .decoded hdocument,
      outcome_loadDocument_eq_ok_iff.mp (Reported.outcome_mapError_eq_ok_iff.mp hload)⟩

/-- Whatever is loaded is named. -/
theorem named_of_loadDescriptors (hload : (loadDescriptors content limits).outcome = .ok enums) :
    ∀ enum ∈ enums, enum.Named := by
  obtain ⟨document, _, hdocument⟩ := exists_describesDocument hload
  exact hdocument.named

/-- If nothing is loaded, the document is at fault, or else a text has a row of too many digits or
is nested too deep. -/
theorem loadDescriptors_eq_error (hload : (loadDescriptors content limits).outcome = .error error) :
    (∃ fault, error = .descriptor fault) ∨
      ∃ text, content.text? = some text ∧
        ((∃ digits, error = .longInteger digits ∧ HasDigitRow text.toList digits ∧
            Text.digitLimit < digits) ∨
          ∃ container nesting, error = .tooDeep container ∧ limits.nesting = some nesting ∧
            NestsDeeper text.toList nesting) := by
  have hfault {document : Json}
      (hdocument : ((loadDocument document).mapError LoadError.descriptor).outcome =
        .error error) : ∃ fault, error = .descriptor fault := by
    obtain ⟨fault, _, rfl⟩ := Reported.outcome_mapError_eq_error_iff.mp hdocument
    exact ⟨fault, rfl⟩
  rcases content.text?_or_document with ⟨text, htext⟩ | ⟨document, rfl, hdocument⟩
  · rw [loadDescriptors_of_text? htext] at hload
    rcases Reported.outcome_bind_eq_error_iff.mp hload with hdecode | ⟨document, _, hdocument⟩
    · exact (decodeDocument_eq_error hdecode).imp_right fun herror => ⟨text, htext, herror⟩
    · exact Or.inl (hfault hdocument)
  · rw [loadDescriptors_of_document hdocument] at hload
    exact Or.inl (hfault hload)

/-! ## Numbers -/

/-- A value of a field is a value in the object. -/
theorem HasField.hasInteger {fields : List (String × Json)} {key : String} {value : Json}
    (hfield : HasField fields key value) {number : Int} (hnumber : value.HasInteger number) :
    (Json.object fields).HasInteger number := by
  obtain ⟨earlier, later, rfl, _⟩ := hfield
  exact .object (List.mem_append_right earlier List.mem_cons_self) hnumber

/-- The number of a value is an integer of the item that describes it. -/
theorem DescribesValue.hasInteger {item : Json} {value : EnumValue}
    (hvalue : DescribesValue item value) : item.HasInteger value.number := by
  cases hvalue with
  | object hfields => exact hfields.number.hasInteger .int

/-- The numbers of an enumeration are integers of the item that describes it. -/
theorem DescribesEnum.hasInteger {item : Json} {enum : EnumDescriptor}
    (henum : DescribesEnum item enum) :
    ∀ value ∈ enum.values, item.HasInteger value.number := by
  cases henum with
  | object hfields =>
    intro value hvalue
    obtain ⟨items, hitems, hvalues⟩ := hfields.values
    obtain ⟨item, hitem, hdescribes⟩ := exists_related_of_mem hvalues hvalue
    have hlist := Json.HasInteger.list hitem hdescribes.hasInteger
    cases hitems with
    | first hfield => exact hfield.hasInteger hlist
    | second _ hfield => exact hfield.hasInteger hlist

/-- The numbers that a document describes are integers of it. -/
theorem DescribesDocument.hasInteger (hdocument : DescribesDocument document enums) :
    ∀ enum ∈ enums, ∀ value ∈ enum.values, document.HasInteger value.number := by
  cases hdocument with
  | object hfield henums =>
    intro enum henum value hvalue
    obtain ⟨item, hitem, hdescribes⟩ := exists_related_of_mem henums henum
    exact hfield.hasInteger (.list hitem (hdescribes.hasInteger value hvalue))

/-- The numbers that are loaded are not too long, unless they stand in a decoded document. -/
theorem allowsNumber_of_loadDescriptors
    (hload : (loadDescriptors content limits).outcome = .ok enums) {enum : EnumDescriptor}
    (henum : enum ∈ enums) {value : EnumValue} (hvalue : value ∈ enum.values)
    (hdecoded : ∀ document, content = .decoded document → ∀ number,
      document.HasInteger number → limits.allowsNumber number = true) :
    limits.allowsNumber value.number = true := by
  obtain ⟨document, hholds, hdescribes⟩ := exists_describesDocument hload
  have hinteger := hdescribes.hasInteger enum henum value hvalue
  cases hholds with
  | decoded _ => exact hdecoded document rfl value.number hinteger
  | text htext hdecode =>
    exact Limits.allowsNumber_of_ordinary
      (Json.allowsNumber_of_read (decodeDocument_eq_ok_iff.mp hdecode) hinteger 0) limits

end EnumBindings
