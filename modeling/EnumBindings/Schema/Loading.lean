import EnumBindings.Json.Reader
import EnumBindings.Report
import EnumBindings.Schema.Basic
import EnumBindings.Schema.Error
import EnumBindings.Text.Quoted

/-!
# Loading descriptors

A document lists enumerations under the key `enums`. The first fault in document order is
reported; the comment of an enumeration is looked at behind its values.
-/

namespace EnumBindings

/-- The field `name`, which must be a text and not empty. -/
def nameField? (fields : List (String × Json)) : Option String :=
  match fieldOf? "name" fields with
  | some (.text name) => if name.isEmpty then none else some name
  | _ => none

/-- The field `comment`, which may be absent or null. -/
def commentField (fields : List (String × Json)) (error : DescriptorError) :
    Except DescriptorError (Option String) :=
  match fieldOf? "comment" fields with
  | none => .ok none
  | some .null => .ok none
  | some (.text comment) => .ok (some comment)
  | some _ => .error error

/-- The field `deprecated`, where any value that is set will do. -/
def deprecatedField (fields : List (String × Json)) : Bool :=
  match fieldOf? "deprecated" fields with
  | none => false
  | some value => value.isSet

/-- Reads a value of the enumeration with the given full name. -/
def EnumValue.ofJson (enumName : String) : Json → Except DescriptorError EnumValue
  | .object fields =>
    match nameField? fields with
    | none => .error ⟨.valueWithoutName, some enumName, none⟩
    | some name =>
      match fieldOf? "number" fields with
      | some (.int number) => do
        let comment ← commentField fields ⟨.commentNotText, some enumName, some name⟩
        return ⟨name, number, deprecatedField fields, comment⟩
      | _ => .error ⟨.numberNotInteger, some enumName, some name⟩
  | _ => .error ⟨.valueNotObject, some enumName, none⟩

/-- Reads the values of an enumeration, of which no two may have one name. The names
already taken are given. -/
def EnumValue.listOfJson (enumName : String) (taken : List String) :
    List Json → Except DescriptorError (List EnumValue)
  | [] => .ok []
  | item :: items => do
    let value ← EnumValue.ofJson enumName item
    if value.name ∈ taken then .error ⟨.duplicateName, some enumName, some value.name⟩
    else return value :: (← EnumValue.listOfJson enumName (value.name :: taken) items)

/-- The full name of an enumeration: its own name unless the document gives another. -/
def fullNameField? (name : String) (fields : List (String × Json)) : Option String :=
  match firstFieldOf? ["fullName", "full_name"] fields with
  | none => some name
  | some (.text fullName) => if fullName.isEmpty then none else some fullName
  | some _ => none

/-- The list of values of an enumeration. -/
def valuesField? (fields : List (String × Json)) : Option (List Json) :=
  match firstFieldOf? ["values", "value"] fields with
  | some (.list items) => some items
  | _ => none

/-- Reads an enumeration. -/
def EnumDescriptor.ofJson : Json → Reported DescriptorError EnumDescriptor
  | .object fields =>
    match nameField? fields with
    | none => .ofExcept (.error ⟨.enumWithoutName, none, none⟩)
    | some name =>
      match fullNameField? name fields with
      | none => .ofExcept (.error ⟨.fullNameNotText, some name, none⟩)
      | some fullName =>
        match valuesField? fields with
        | none => .ofExcept (.error ⟨.missingValues, some fullName, none⟩)
        | some items => do
          let values ← .ofExcept (EnumValue.listOfJson fullName [] items)
          .report .debug ("Loaded enum '" ++ fullName ++ "' with values: " ++
            showQuotedList (values.map (·.name)))
          let comment ← .ofExcept (commentField fields ⟨.commentNotText, some fullName, none⟩)
          return ⟨name, fullName, values, deprecatedField fields, comment⟩
  | _ => .ofExcept (.error ⟨.enumNotObject, none, none⟩)

/-- Reads the enumerations of a decoded document. -/
def loadDocument (document : Json) : Reported DescriptorError (List EnumDescriptor) :=
  match document with
  | .object fields =>
    match fieldOf? "enums" fields with
    | some (.list items) => items.mapM EnumDescriptor.ofJson
    | _ => .ofExcept (.error ⟨.missingEnums, none, none⟩)
  | _ => .ofExcept (.error ⟨.missingEnums, none, none⟩)

/-- Decodes the text of a document. -/
def decodeDocument (text : List Char) (limits : Limits := {}) : Except LoadError Json :=
  match Json.read text limits with
  | .ok document => .ok document
  | .error (.malformed fault offset) =>
    .error (.descriptor ⟨.malformedText fault (Place.ofOffset text offset), none, none⟩)
  | .error (.longInteger digits) => .error (.longInteger digits)
  | .error (.tooDeep container) => .error (.tooDeep container)

/-- Reads the enumerations of a document given as text. -/
def loadText (text : List Char) (limits : Limits := {}) :
    Reported LoadError (List EnumDescriptor) := do
  let document ← .ofExcept (decodeDocument text limits)
  (loadDocument document).mapError .descriptor

/-- A document as it is handed in: already decoded, or as text. -/
inductive Content where
  | decoded (document : Json)
  | text (text : String)

/-- The text that is handed in. A decoded document that is a text is taken for one. -/
def Content.text? : Content → Option String
  | .text spelling => some spelling
  | .decoded (.text spelling) => some spelling
  | .decoded _ => none

/-- Reads the enumerations of a document in either form. -/
def loadDescriptors (content : Content) (limits : Limits := {}) :
    Reported LoadError (List EnumDescriptor) :=
  match content with
  | .text text => loadText text.toList limits
  | .decoded (.text text) => loadText text.toList limits
  | .decoded document => (loadDocument document).mapError .descriptor

/-- What is handed in as text is read as text. -/
theorem loadDescriptors_of_text? {content : Content} {text : String}
    (htext : content.text? = some text) (limits : Limits) :
    loadDescriptors content limits = loadText text.toList limits := by
  unfold Content.text? at htext
  split at htext
  · rw [← Option.some.inj htext]
    rfl
  · rw [← Option.some.inj htext]
    rfl
  · cases htext

/-- A document that is no text is loaded as it is. -/
theorem loadDescriptors_of_document {document : Json} (hdocument : ∀ text, document ≠ .text text)
    (limits : Limits) :
    loadDescriptors (.decoded document) limits = (loadDocument document).mapError .descriptor := by
  cases document with
  | text text => exact (hdocument text rfl).elim
  | _ => rfl

end EnumBindings
