import EnumBindings.Proofs.Schema.Faults
import EnumBindings.Proofs.Schema.Relevance
import EnumBindings.Proofs.Traversal

/-!
# Which documents are accepted

The conditions on a document that is accepted, and what becomes of a document that has been decoded.
Unless it is a text, it is accepted exactly if it is well formed; what is loaded from it is what it
describes; what is reported otherwise is its first fault; and fields that do not matter make no
difference.
-/

namespace EnumBindings

/-- An item that is an object with a name. -/
inductive HasName : Json → String → Prop
  | object {fields : List (String × Json)} {name : String} :
      GivesName fields name → HasName (.object fields) name

/-- A value as a document may have it: an object with a name, an integer as its number, and a
comment that is a text if it is there and not null. -/
inductive WellFormedValue : Json → Prop
  | object {fields : List (String × Json)} : (∃ name, GivesName fields name) →
      (∃ number, HasField fields "number" (.int number)) →
      (∃ comment, GivesComment fields comment) → WellFormedValue (.object fields)

/-- An enumeration as a document may have it: an object with a name, a full name, a list of values
of which no two have one name, and a comment that is a text if it is there and not null. -/
inductive WellFormedEnum : Json → Prop
  | object {fields : List (String × Json)} {name : String} {items : List Json} :
      GivesName fields name → (∃ fullName, GivesFullName fields name fullName) →
      GivesValues fields items → (∀ item ∈ items, WellFormedValue item) →
      (items.Pairwise fun first second => ∀ name, HasName first name → ¬ HasName second name) →
      (∃ comment, GivesComment fields comment) → WellFormedEnum (.object fields)

/-- A document as it may be: an object that lists enumerations. -/
inductive WellFormedDocument : Json → Prop
  | object {fields : List (String × Json)} {items : List Json} :
      HasField fields "enums" (.list items) → (∀ item ∈ items, WellFormedEnum item) →
      WellFormedDocument (.object fields)

theorem wellFormedValue_iff {item : Json} :
    WellFormedValue item ↔ ∃ value, DescribesValue item value := by
  constructor
  · rintro ⟨⟨name, hname⟩, ⟨number, hnumber⟩, ⟨comment, hcomment⟩⟩
    exact ⟨⟨name, number, _, comment⟩,
      .object ⟨hname, hnumber, hcomment, deprecatedField_eq_true_iff⟩⟩
  · rintro ⟨value, ⟨hfields⟩⟩
    exact .object ⟨_, hfields.name⟩ ⟨_, hfields.number⟩ ⟨_, hfields.comment⟩

/-- The name of an item that describes a value is the name of the value. -/
theorem DescribesValue.hasName_iff {item : Json} {value : EnumValue} {name : String}
    (hvalue : DescribesValue item value) : HasName item name ↔ name = value.name := by
  cases hvalue with
  | object hfields =>
    constructor
    · rintro ⟨hname⟩
      exact Json.text.inj (hname.1.unique hfields.name.1)
    · rintro rfl
      exact .object hfields.name

/-- The names of values are those that the items have that describe them. -/
theorem mem_names_iff {items : List Json} {values : List EnumValue}
    (hvalues : List.Forall₂ DescribesValue items values) (name : String) :
    name ∈ values.map (·.name) ↔ ∃ item ∈ items, HasName item name := by
  induction hvalues with
  | nil => simp
  | cons hvalue _ ih => simp only [List.map_cons, List.mem_cons, exists_eq_or_imp, ih,
      hvalue.hasName_iff]

/-- The names of values are distinct exactly if no two of the items that describe them share one. -/
theorem nodup_iff_pairwise {items : List Json} {values : List EnumValue}
    (hvalues : List.Forall₂ DescribesValue items values) :
    (values.map (·.name)).Nodup ↔
      items.Pairwise fun first second => ∀ name, HasName first name → ¬ HasName second name := by
  induction hvalues with
  | nil => exact iff_of_true List.nodup_nil .nil
  | @cons item value items values hvalue hvalues ih =>
    rw [List.map_cons, List.nodup_cons, List.pairwise_cons, ih, and_congr_left_iff]
    intro _
    rw [mem_names_iff hvalues]
    constructor
    · intro hnew other hother name hname hshared
      rw [hvalue.hasName_iff] at hname
      exact hnew ⟨other, hother, hname ▸ hshared⟩
    · rintro hapart ⟨other, hother, hshared⟩
      exact hapart other hother value.name (hvalue.hasName_iff.mpr rfl) hshared

theorem wellFormedEnum_iff {item : Json} :
    WellFormedEnum item ↔ ∃ enum, DescribesEnum item enum := by
  constructor
  · rintro ⟨hname, ⟨fullName, hfullName⟩, hitems, hwell, hapart, ⟨comment, hcomment⟩⟩
    obtain ⟨values, hvalues⟩ := (exists_forall₂_iff _).mpr fun item hitem =>
      wellFormedValue_iff.mp (hwell item hitem)
    exact ⟨⟨_, fullName, values, _, comment⟩, .object ⟨hname, hfullName, ⟨_, hitems, hvalues⟩,
      (nodup_iff_pairwise hvalues).mpr hapart, hcomment, deprecatedField_eq_true_iff⟩⟩
  · rintro ⟨enum, ⟨hfields⟩⟩
    obtain ⟨items, hitems, hvalues⟩ := hfields.values
    refine .object hfields.name ⟨_, hfields.fullName⟩ hitems ?_
      ((nodup_iff_pairwise hvalues).mp hfields.distinct) ⟨_, hfields.comment⟩
    intro item hitem
    exact wellFormedValue_iff.mpr ((exists_forall₂_iff _).mp ⟨_, hvalues⟩ item hitem)

theorem wellFormedDocument_iff {document : Json} :
    WellFormedDocument document ↔ ∃ enums, DescribesDocument document enums := by
  constructor
  · rintro ⟨hfield, hwell⟩
    obtain ⟨enums, henums⟩ := (exists_forall₂_iff _).mpr fun item hitem =>
      wellFormedEnum_iff.mp (hwell item hitem)
    exact ⟨enums, .object hfield henums⟩
  · rintro ⟨enums, hfield, henums⟩
    refine .object hfield ?_
    intro item hitem
    exact wellFormedEnum_iff.mpr ((exists_forall₂_iff _).mp ⟨_, henums⟩ item hitem)

/-- What becomes of a decoded document that is no text. It is accepted exactly if it is well formed.
The enumerations that are loaded are those that it describes, in its order and with nothing left
out. If it is not accepted, its first fault is reported, with the names of the enumeration and the
value that have it as far as they are known. No other field of the document makes a difference. A
document that is a text is not looked at as it is, but loaded as the text of another one. -/
theorem loadDescriptors_decoded (document : Json) (limits : Limits) :
    ((∀ text, document ≠ .text text) →
      ((∃ enums, (loadDescriptors (.decoded document) limits).outcome = .ok enums) ↔
        WellFormedDocument document) ∧
      (∀ enums, (loadDescriptors (.decoded document) limits).outcome = .ok enums ↔
        DescribesDocument document enums) ∧
      (∀ error, (loadDescriptors (.decoded document) limits).outcome = .error error ↔
        ∃ fault, error = .descriptor fault ∧ DocumentFault document fault) ∧
      loadDescriptors (.decoded document.relevant) limits =
        loadDescriptors (.decoded document) limits) ∧
    ∀ text, document = .text text →
      loadDescriptors (.decoded document) limits = loadDescriptors (.text text) limits := by
  refine ⟨fun hdocument => ?_, fun text htext => by rw [htext]; rfl⟩
  have houtcome : (loadDescriptors (.decoded document) limits).outcome =
      (loadDocument document).outcome.mapError .descriptor := by
    rw [loadDescriptors_of_document hdocument]
    rfl
  have hloaded (enums : List EnumDescriptor) :
      (loadDescriptors (.decoded document) limits).outcome = .ok enums ↔
        DescribesDocument document enums := by
    rw [houtcome, ← outcome_loadDocument_eq_ok_iff]
    cases (loadDocument document).outcome <;> simp [Except.mapError]
  refine ⟨?_, hloaded, ?_, ?_⟩
  · rw [wellFormedDocument_iff]
    exact exists_congr hloaded
  · intro error
    simp only [houtcome, ← outcome_loadDocument_eq_error_iff]
    cases (loadDocument document).outcome with
    | error fault => simp [Except.mapError, eq_comm]
    | ok enums => simp [Except.mapError]
  · rw [loadDescriptors_of_document hdocument,
      loadDescriptors_of_document (Json.relevant_ne_text hdocument), loadDocument_relevant]

/-- An object without fields lists no enumerations. -/
theorem loadDescriptors_decoded_empty :
    (∀ text, Json.object [] ≠ .text text) ∧
      ((loadDescriptors (.decoded (.object []))).outcome =
          .error (.descriptor ⟨.missingEnums, none, none⟩) ↔
        ∃ fault, LoadError.descriptor ⟨.missingEnums, none, none⟩ = .descriptor fault ∧
          DocumentFault (.object []) fault) := by
  have hdocument : ∀ text, Json.object [] ≠ .text text := fun _ => Json.noConfusion
  exact ⟨hdocument, ((loadDescriptors_decoded (.object []) {}).1 hdocument).2.2.1 _⟩

/-- A document that is a text is no object and lists nothing, but it is loaded where it is itself
the text of a document that does. -/
theorem loadDescriptors_decoded_quoted :
    ¬ WellFormedDocument (.text "\x7b\"enums\": []\x7d") ∧
      (loadDescriptors (.decoded (.text "\x7b\"enums\": []\x7d"))).outcome = .ok [] := by
  refine ⟨?_, rfl⟩
  rintro ⟨⟩

/-- A second key counts where the first is absent, a comment may be null, and any text that is not
empty marks a value as deprecated. -/
example : (loadDescriptors (.decoded (.object [("enums", .list [.object [
    ("name", .text "Lamp"), ("full_name", .text "Room.Lamp"),
    ("value", .list [.object [("name", .text "ON"), ("number", .int 1), ("comment", .null),
      ("deprecated", .text "no")]])]])]))).outcome =
      .ok [⟨"Lamp", "Room.Lamp", [⟨"ON", 1, true, none⟩], false, none⟩] := rfl

/-- A full name that is null is there, so that neither the second key nor the name takes its
place. -/
example : (loadDescriptors (.decoded (.object [("enums", .list [.object [
    ("name", .text "Lamp"), ("fullName", .null), ("full_name", .text "Room.Lamp"),
    ("values", .list [])]])]))).outcome =
      .error (.descriptor ⟨.fullNameNotText, some "Lamp", none⟩) := rfl

end EnumBindings
