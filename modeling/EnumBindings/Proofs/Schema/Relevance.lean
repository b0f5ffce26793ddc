import EnumBindings.Schema.Loading
import Mathlib.Data.List.Induction

/-!
# Fields that matter

A document may have fields that no enumeration needs, at every level of it. What is loaded from a
document, and reported on the way, is loaded from the document without them.
-/

namespace EnumBindings

/-- The fields of some keys, each with its value changed. -/
def keepFields (keys : List String) (change : String → Json → Json)
    (fields : List (String × Json)) : List (String × Json) :=
  (fields.filter (·.1 ∈ keys)).map fun field => (field.1, change field.1 field.2)

/-- An object with its fields changed; other values are left as they are. -/
def Json.mapFields (f : List (String × Json) → List (String × Json)) : Json → Json
  | .object fields => .object (f fields)
  | other => other

/-- A list with its items changed; other values are left as they are. -/
def Json.mapItems (f : Json → Json) : Json → Json
  | .list items => .list (items.map f)
  | other => other

/-- The keys that matter in a value of an enumeration. -/
def valueKeys : List String :=
  ["name", "number", "deprecated", "comment"]

/-- The keys that matter in an enumeration. -/
def enumKeys : List String :=
  ["name", "fullName", "full_name", "values", "value", "deprecated", "comment"]

/-- A value of an enumeration without the fields that do not matter. -/
def Json.relevantValue : Json → Json :=
  Json.mapFields (keepFields valueKeys fun _ => id)

/-- The change of a field of an enumeration: its values are without what does not matter. -/
def relevantField (key : String) : Json → Json :=
  if key = "values" ∨ key = "value" then Json.mapItems Json.relevantValue else id

/-- An enumeration without the fields that do not matter, in itself and in its values. -/
def Json.relevantEnum : Json → Json :=
  Json.mapFields (keepFields enumKeys relevantField)

/-- A document without the fields that do not matter, in itself and in its enumerations. -/
def Json.relevant : Json → Json :=
  Json.mapFields (keepFields ["enums"] fun _ => Json.mapItems Json.relevantEnum)

variable {first second fields : List (String × Json)} {key : String}

/-! ## Each function reads its own fields only -/

theorem nameField?_congr (hname : fieldOf? "name" first = fieldOf? "name" second) :
    nameField? first = nameField? second := by
  unfold nameField?
  rw [hname]

theorem commentField_congr (hcomment : fieldOf? "comment" first = fieldOf? "comment" second)
    (error : DescriptorError) : commentField first error = commentField second error := by
  unfold commentField
  rw [hcomment]

theorem deprecatedField_congr
    (hdeprecated : fieldOf? "deprecated" first = fieldOf? "deprecated" second) :
    deprecatedField first = deprecatedField second := by
  unfold deprecatedField
  rw [hdeprecated]

theorem fullNameField?_congr (name : String)
    (hcamel : fieldOf? "fullName" first = fieldOf? "fullName" second)
    (hsnake : fieldOf? "full_name" first = fieldOf? "full_name" second) :
    fullNameField? name first = fullNameField? name second := by
  have hfirst : firstFieldOf? ["fullName", "full_name"] first =
      firstFieldOf? ["fullName", "full_name"] second := by
    simp only [firstFieldOf?, List.findSome?_cons, List.findSome?_nil, hcamel, hsnake]
  unfold fullNameField?
  rw [hfirst]

/-! ## Fields that are kept are found -/

/-- A field at the end counts before all others. -/
theorem fieldOf?_concat (key : String) (fields : List (String × Json)) (field : String × Json) :
    fieldOf? key (fields ++ [field]) =
      if key = field.1 then some field.2 else fieldOf? key fields := by
  obtain ⟨other, value⟩ := field
  unfold fieldOf?
  rw [List.reverse_append, List.reverse_singleton, List.singleton_append, List.lookup_cons]
  by_cases hkey : key = other
  · rw [if_pos hkey, beq_iff_eq.mpr hkey]
  · rw [if_neg hkey, beq_eq_false_iff_ne.mpr hkey]

/-- A field whose key is kept is found with its value changed. -/
theorem fieldOf?_keepFields {keys : List String} (change : String → Json → Json)
    (fields : List (String × Json)) (hkey : key ∈ keys) :
    fieldOf? key (keepFields keys change fields) = (fieldOf? key fields).map (change key) := by
  unfold keepFields
  induction fields using List.reverseRecOn with
  | nil => rfl
  | append_singleton fields field ih =>
    rw [List.filter_append, List.map_append, fieldOf?_concat]
    by_cases hkept : field.1 ∈ keys
    · have hfilter : [field].filter (·.1 ∈ keys) = [field] :=
        List.filter_eq_self.mpr (by simpa using hkept)
      rw [hfilter, List.map_singleton, fieldOf?_concat, ih]
      by_cases heq : key = field.1
      · rw [if_pos heq, if_pos heq, Option.map_some, heq]
      · rw [if_neg heq, if_neg heq]
    · have hfilter : [field].filter (·.1 ∈ keys) = [] :=
        List.filter_eq_nil_iff.mpr (by simpa using hkept)
      have hne : key ≠ field.1 := fun heq => hkept (heq ▸ hkey)
      rw [hfilter, List.map_nil, List.append_nil, ih, if_neg hne]

/-- A field whose key is kept is found as it is if its value is left as it is. -/
theorem fieldOf?_keepFields_of_id {keys : List String} {change : String → Json → Json}
    (hkey : key ∈ keys) (hchange : change key = id) :
    fieldOf? key (keepFields keys change fields) = fieldOf? key fields := by
  rw [fieldOf?_keepFields change fields hkey, hchange, Option.map_id, id]

/-! ## What matters is all that is read -/

/-- A value is read from what matters of it. -/
theorem ofJson_relevantValue (enumName : String) (item : Json) :
    EnumValue.ofJson enumName item.relevantValue = EnumValue.ofJson enumName item := by
  cases item with
  | object fields =>
    let kept := keepFields valueKeys (fun _ => id) fields
    have hfield (key : String) (hkey : key ∈ valueKeys) :
        fieldOf? key kept = fieldOf? key fields :=
      fieldOf?_keepFields_of_id hkey rfl
    show EnumValue.ofJson enumName (.object kept) = _
    simp only [EnumValue.ofJson, nameField?_congr (hfield "name" (by decide)),
      hfield "number" (by decide), commentField_congr (hfield "comment" (by decide)),
      deprecatedField_congr (hfield "deprecated" (by decide))]
  | _ => rfl

/-- Values are read from what matters of them. -/
theorem listOfJson_relevantValue (enumName : String) (items : List Json) :
    ∀ taken : List String,
      EnumValue.listOfJson enumName taken (items.map Json.relevantValue) =
        EnumValue.listOfJson enumName taken items := by
  induction items with
  | nil => exact fun _ => rfl
  | cons item items ih =>
    intro taken
    rw [List.map_cons, EnumValue.listOfJson, EnumValue.listOfJson, ofJson_relevantValue]
    refine bind_congr fun value => ?_
    rw [ih]

/-- The values are found in what matters of an enumeration, without what does not matter of them. -/
theorem valuesField?_relevant (fields : List (String × Json)) :
    valuesField? (keepFields enumKeys relevantField fields) =
      (valuesField? fields).map (·.map Json.relevantValue) := by
  have hvalues : relevantField "values" = Json.mapItems Json.relevantValue := if_pos (.inl rfl)
  have hvalue : relevantField "value" = Json.mapItems Json.relevantValue := if_pos (.inr rfl)
  have hkept (key : String) (hkey : key ∈ enumKeys) :=
    fieldOf?_keepFields relevantField fields hkey
  have hfirst : firstFieldOf? ["values", "value"] (keepFields enumKeys relevantField fields) =
      (firstFieldOf? ["values", "value"] fields).map (Json.mapItems Json.relevantValue) := by
    simp only [firstFieldOf?, List.findSome?_cons, List.findSome?_nil, hkept "values" (by decide),
      hkept "value" (by decide), hvalues, hvalue]
    cases fieldOf? "values" fields <;> cases fieldOf? "value" fields <;> rfl
  unfold valuesField?
  rw [hfirst]
  cases firstFieldOf? ["values", "value"] fields with
  | none => rfl
  | some value => cases value <;> rfl

/-- An enumeration is read from what matters of it. -/
theorem ofJson_relevantEnum (item : Json) :
    EnumDescriptor.ofJson item.relevantEnum = EnumDescriptor.ofJson item := by
  cases item with
  | object fields =>
    let kept := keepFields enumKeys relevantField fields
    have hfield (key : String) (hkey : key ∈ enumKeys) (hother : relevantField key = id) :
        fieldOf? key kept = fieldOf? key fields :=
      fieldOf?_keepFields_of_id hkey hother
    have hname := nameField?_congr (hfield "name" (by decide) rfl)
    have hfullName (name : String) := fullNameField?_congr name
      (hfield "fullName" (by decide) rfl) (hfield "full_name" (by decide) rfl)
    have hdeprecated := deprecatedField_congr (hfield "deprecated" (by decide) rfl)
    have hcomment := commentField_congr (hfield "comment" (by decide) rfl)
    show EnumDescriptor.ofJson (.object kept) = _
    simp only [EnumDescriptor.ofJson, hname, hfullName, hdeprecated, hcomment]
    cases nameField? fields with
    | none => rfl
    | some name =>
      cases hfull : fullNameField? name fields with
      | none => simp only [hfull]
      | some fullName =>
        simp only [hfull]
        rw [valuesField?_relevant]
        cases valuesField? fields with
        | none => rfl
        | some items =>
          simp only [Option.map_some, listOfJson_relevantValue]
  | _ => rfl

/-- What matters of a document is a text only if the document is one. -/
theorem Json.relevant_ne_text {document : Json} (hdocument : ∀ text, document ≠ .text text)
    (text : String) : document.relevant ≠ .text text := by
  cases document with
  | text content => exact (hdocument content rfl).elim
  | _ => exact Json.noConfusion

/-- A document is loaded from what matters of it. -/
theorem loadDocument_relevant (document : Json) :
    loadDocument document.relevant = loadDocument document := by
  cases document with
  | object fields =>
    show loadDocument (.object (keepFields ["enums"]
      (fun _ => Json.mapItems Json.relevantEnum) fields)) = _
    have hkept := fieldOf?_keepFields (fun _ => Json.mapItems Json.relevantEnum) fields
      (List.mem_singleton_self "enums")
    simp only [loadDocument, hkept]
    cases fieldOf? "enums" fields with
    | none => rfl
    | some value =>
      cases value with
      | list items =>
        have hread : EnumDescriptor.ofJson ∘ Json.relevantEnum = EnumDescriptor.ofJson :=
          funext ofJson_relevantEnum
        show (items.map Json.relevantEnum).mapM EnumDescriptor.ofJson = _
        rw [List.mapM_map, hread]
      | _ => rfl
  | _ => rfl

end EnumBindings
