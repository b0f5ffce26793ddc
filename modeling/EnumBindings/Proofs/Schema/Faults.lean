import EnumBindings.Proofs.Schema.Descriptions

/-!
# What a document gets wrong

The first fault of a document in its order, said without the functions that load it, with the names
that are told along with it. The first fault is the error that is reported, and a document that has
none describes enumerations.
-/

namespace EnumBindings

/-- What is wrong with an item that describes no value of the enumeration with this name. -/
inductive ValueFault (enumName : String) : Json → DescriptorError → Prop
  | notObject {item : Json} : (∀ fields, item ≠ .object fields) →
      ValueFault enumName item ⟨.valueNotObject, some enumName, none⟩
  | withoutName {fields : List (String × Json)} : (∀ name, ¬ GivesName fields name) →
      ValueFault enumName (.object fields) ⟨.valueWithoutName, some enumName, none⟩
  | numberNotInteger {fields : List (String × Json)} {name : String} : GivesName fields name →
      (∀ number, ¬ HasField fields "number" (.int number)) →
      ValueFault enumName (.object fields) ⟨.numberNotInteger, some enumName, some name⟩
  | commentNotText {fields : List (String × Json)} {name : String} {number : Int} :
      GivesName fields name → HasField fields "number" (.int number) →
      (∀ comment, ¬ GivesComment fields comment) →
      ValueFault enumName (.object fields) ⟨.commentNotText, some enumName, some name⟩

/-- The first fault in a list of items. The items before it describe values with distinct names; it
describes none, or one with a name that is among theirs. -/
inductive ValuesFault (enumName : String) : List Json → DescriptorError → Prop
  | value {earlier later : List Json} {values : List EnumValue} {item : Json}
      {error : DescriptorError} :
      List.Forall₂ DescribesValue earlier values → (values.map (·.name)).Nodup →
      ValueFault enumName item error → ValuesFault enumName (earlier ++ item :: later) error
  | duplicate {earlier later : List Json} {values : List EnumValue} {item : Json}
      {value : EnumValue} :
      List.Forall₂ DescribesValue earlier values → (values.map (·.name)).Nodup →
      DescribesValue item value → value.name ∈ values.map (·.name) →
      ValuesFault enumName (earlier ++ item :: later)
        ⟨.duplicateName, some enumName, some value.name⟩

/-- The first thing that is wrong with an item that describes no enumeration. -/
inductive EnumFault : Json → DescriptorError → Prop
  | notObject {item : Json} : (∀ fields, item ≠ .object fields) →
      EnumFault item ⟨.enumNotObject, none, none⟩
  | withoutName {fields : List (String × Json)} : (∀ name, ¬ GivesName fields name) →
      EnumFault (.object fields) ⟨.enumWithoutName, none, none⟩
  | fullNameNotText {fields : List (String × Json)} {name : String} : GivesName fields name →
      (∀ fullName, ¬ GivesFullName fields name fullName) →
      EnumFault (.object fields) ⟨.fullNameNotText, some name, none⟩
  | missingValues {fields : List (String × Json)} {name fullName : String} :
      GivesName fields name → GivesFullName fields name fullName →
      (∀ items, ¬ GivesValues fields items) →
      EnumFault (.object fields) ⟨.missingValues, some fullName, none⟩
  | values {fields : List (String × Json)} {name fullName : String} {items : List Json}
      {error : DescriptorError} :
      GivesName fields name → GivesFullName fields name fullName → GivesValues fields items →
      ValuesFault fullName items error → EnumFault (.object fields) error
  | commentNotText {fields : List (String × Json)} {name fullName : String} {items : List Json}
      {values : List EnumValue} :
      GivesName fields name → GivesFullName fields name fullName → GivesValues fields items →
      List.Forall₂ DescribesValue items values → (values.map (·.name)).Nodup →
      (∀ comment, ¬ GivesComment fields comment) →
      EnumFault (.object fields) ⟨.commentNotText, some fullName, none⟩

/-- The first fault of a document: it lists no enumerations, or an item describes none and all the
items before it do. -/
inductive DocumentFault : Json → DescriptorError → Prop
  | missingEnums {document : Json} :
      (∀ fields items, document = .object fields → ¬ HasField fields "enums" (.list items)) →
      DocumentFault document ⟨.missingEnums, none, none⟩
  | enum {fields : List (String × Json)} {earlier later : List Json} {enums : List EnumDescriptor}
      {item : Json} {error : DescriptorError} :
      HasField fields "enums" (.list (earlier ++ item :: later)) →
      List.Forall₂ DescribesEnum earlier enums → EnumFault item error →
      DocumentFault (.object fields) error

/-! ## The first fault is reported -/

theorem ValueFault.ofJson_eq {enumName : String} {item : Json} {error : DescriptorError}
    (hfault : ValueFault enumName item error) : EnumValue.ofJson enumName item = .error error := by
  cases hfault with
  | notObject hitem =>
    cases item with
    | object fields => exact (hitem fields rfl).elim
    | _ => rfl
  | withoutName hname => simp only [EnumValue.ofJson, nameField?_eq_none_iff.mpr hname]
  | @numberNotInteger fields name hname hnumber =>
    simp only [EnumValue.ofJson, nameField?_eq_some_iff.mpr hname]
    split
    · rename_i number hfield
      exact (hnumber number (fieldOf?_eq_some_iff.mp hfield)).elim
    · rfl
  | commentNotText hname hnumber hcomment =>
    simp only [EnumValue.ofJson, nameField?_eq_some_iff.mpr hname,
      fieldOf?_eq_some_iff.mpr hnumber, commentField_eq_error hcomment]
    rfl

theorem ValuesFault.listOfJson_eq {enumName : String} {items : List Json} {error : DescriptorError}
    (hfault : ValuesFault enumName items error) :
    EnumValue.listOfJson enumName [] items = .error error := by
  have hfresh (values : List EnumValue) : ∀ value ∈ values, value.name ∉ ([] : List String) :=
    fun _ _ => List.not_mem_nil
  cases hfault with
  | @value earlier later values item _ hvalues hdistinct hitem =>
    rw [listOfJson_append hvalues enumName [] _ hdistinct (hfresh values), EnumValue.listOfJson,
      hitem.ofJson_eq]
    rfl
  | @duplicate earlier later values item value hvalues hdistinct hvalue htaken =>
    rw [listOfJson_append hvalues enumName [] _ hdistinct (hfresh values), EnumValue.listOfJson,
      hvalue.ofJson_eq, List.append_nil]
    show Except.map _ (if value.name ∈ _ then _ else _) = _
    rw [if_pos (List.mem_reverse.mpr htaken)]
    rfl

theorem EnumFault.outcome_ofJson {item : Json} {error : DescriptorError}
    (hfault : EnumFault item error) : (EnumDescriptor.ofJson item).outcome = .error error := by
  cases hfault with
  | notObject hitem =>
    cases item with
    | object fields => exact (hitem fields rfl).elim
    | _ => rfl
  | withoutName hname =>
    simp only [EnumDescriptor.ofJson, nameField?_eq_none_iff.mpr hname, Reported.outcome_ofExcept]
  | fullNameNotText hname hfullName =>
    simp only [EnumDescriptor.ofJson, nameField?_eq_some_iff.mpr hname,
      fullNameField?_eq_none_iff.mpr hfullName, Reported.outcome_ofExcept]
  | missingValues hname hfullName hitems =>
    simp only [EnumDescriptor.ofJson, nameField?_eq_some_iff.mpr hname,
      fullNameField?_eq_some_iff.mpr hfullName, valuesField?_eq_none_iff.mpr hitems,
      Reported.outcome_ofExcept]
  | values hname hfullName hitems hfault =>
    simp only [EnumDescriptor.ofJson, nameField?_eq_some_iff.mpr hname,
      fullNameField?_eq_some_iff.mpr hfullName, valuesField?_eq_some_iff.mpr hitems,
      hfault.listOfJson_eq, Reported.outcome_bind, Reported.outcome_ofExcept]
    rfl
  | @commentNotText fields name fullName items values hname hfullName hitems hvalues hdistinct
      hcomment =>
    simp only [EnumDescriptor.ofJson, nameField?_eq_some_iff.mpr hname,
      fullNameField?_eq_some_iff.mpr hfullName, valuesField?_eq_some_iff.mpr hitems,
      listOfJson_eq hvalues hdistinct, commentField_eq_error hcomment, Reported.outcome_bind,
      Reported.outcome_ofExcept, Reported.outcome_report]
    rfl

theorem DocumentFault.outcome_loadDocument {document : Json} {error : DescriptorError}
    (hfault : DocumentFault document error) : (loadDocument document).outcome = .error error := by
  cases hfault with
  | missingEnums hmissing =>
    cases document with
    | object fields =>
      simp only [loadDocument]
      split
      · rename_i items hitems
        exact (hmissing fields items rfl (fieldOf?_eq_some_iff.mp hitems)).elim
      · rfl
    | _ => rfl
  | @enum fields earlier later enums item _ hfield henums hitem =>
    have hload : loadDocument (.object fields) =
        (earlier ++ item :: later).mapM EnumDescriptor.ofJson := by
      simp only [loadDocument, fieldOf?_eq_some_iff.mpr hfield]
    rw [hload, outcome_mapM_append henums, List.mapM_cons, Reported.outcome_bind,
      hitem.outcome_ofJson]
    rfl

/-! ## Without a fault there is a description -/

theorem exists_describesValue_or_valueFault (enumName : String) (item : Json) :
    (∃ value, DescribesValue item value) ∨ ∃ error, ValueFault enumName item error := by
  by_cases hobject : ∃ fields, item = .object fields
  · obtain ⟨fields, rfl⟩ := hobject
    by_cases hname : ∃ name, GivesName fields name
    · obtain ⟨name, hname⟩ := hname
      by_cases hnumber : ∃ number, HasField fields "number" (.int number)
      · obtain ⟨number, hnumber⟩ := hnumber
        by_cases hcomment : ∃ comment, GivesComment fields comment
        · obtain ⟨comment, hcomment⟩ := hcomment
          exact .inl ⟨⟨name, number, deprecatedField fields, comment⟩,
            .object ⟨hname, hnumber, hcomment, deprecatedField_eq_true_iff⟩⟩
        · exact .inr ⟨_, .commentNotText hname hnumber (not_exists.mp hcomment)⟩
      · exact .inr ⟨_, .numberNotInteger hname (not_exists.mp hnumber)⟩
    · exact .inr ⟨_, .withoutName (not_exists.mp hname)⟩
  · exact .inr ⟨_, .notObject (not_exists.mp hobject)⟩

/-- What follows the first fault does not matter. -/
theorem ValuesFault.append {enumName : String} {items : List Json} {error : DescriptorError}
    (hfault : ValuesFault enumName items error) (later : List Json) :
    ValuesFault enumName (items ++ later) error := by
  cases hfault with
  | value hvalues hdistinct hitem =>
    rw [List.append_assoc, List.cons_append]
    exact .value hvalues hdistinct hitem
  | duplicate hvalues hdistinct hvalue htaken =>
    rw [List.append_assoc, List.cons_append]
    exact .duplicate hvalues hdistinct hvalue htaken

theorem exists_describesValues_or_valuesFault (enumName : String) (items : List Json) :
    (∃ values, List.Forall₂ DescribesValue items values ∧ (values.map (·.name)).Nodup) ∨
      ∃ error, ValuesFault enumName items error := by
  -- The items are taken from the end, so that those before an item are known to be described.
  induction items using List.reverseRecOn with
  | nil => exact .inl ⟨[], .nil, List.nodup_nil⟩
  | append_singleton items item ih =>
    rcases ih with ⟨values, hvalues, hdistinct⟩ | ⟨error, hfault⟩
    · rcases exists_describesValue_or_valueFault enumName item with ⟨value, hvalue⟩ | ⟨error, hitem⟩
      · by_cases htaken : value.name ∈ values.map (·.name)
        · exact .inr ⟨_, .duplicate hvalues hdistinct hvalue htaken⟩
        · refine .inl ⟨values ++ [value], ?_, ?_⟩
          · exact List.rel_append hvalues (.cons hvalue .nil)
          · rw [List.map_append, List.map_singleton, ← List.concat_eq_append]
            exact hdistinct.concat htaken
      · exact .inr ⟨error, .value hvalues hdistinct hitem⟩
    · exact .inr ⟨error, hfault.append [item]⟩

theorem exists_describesEnum_or_enumFault (item : Json) :
    (∃ enum, DescribesEnum item enum) ∨ ∃ error, EnumFault item error := by
  by_cases hobject : ∃ fields, item = .object fields
  · obtain ⟨fields, rfl⟩ := hobject
    by_cases hname : ∃ name, GivesName fields name
    · obtain ⟨name, hname⟩ := hname
      by_cases hfullName : ∃ fullName, GivesFullName fields name fullName
      · obtain ⟨fullName, hfullName⟩ := hfullName
        by_cases hitems : ∃ items, GivesValues fields items
        · obtain ⟨items, hitems⟩ := hitems
          rcases exists_describesValues_or_valuesFault fullName items with
            ⟨values, hvalues, hdistinct⟩ | ⟨error, hfault⟩
          · by_cases hcomment : ∃ comment, GivesComment fields comment
            · obtain ⟨comment, hcomment⟩ := hcomment
              exact .inl ⟨⟨name, fullName, values, deprecatedField fields, comment⟩,
                .object ⟨hname, hfullName, ⟨items, hitems, hvalues⟩, hdistinct, hcomment,
                  deprecatedField_eq_true_iff⟩⟩
            · exact .inr ⟨_, .commentNotText hname hfullName hitems hvalues hdistinct
                (not_exists.mp hcomment)⟩
          · exact .inr ⟨error, .values hname hfullName hitems hfault⟩
        · exact .inr ⟨_, .missingValues hname hfullName (not_exists.mp hitems)⟩
      · exact .inr ⟨_, .fullNameNotText hname (not_exists.mp hfullName)⟩
    · exact .inr ⟨_, .withoutName (not_exists.mp hname)⟩
  · exact .inr ⟨_, .notObject (not_exists.mp hobject)⟩

/-- Items describe enumerations, or there is a first one that does not. -/
theorem exists_describesEnums_or_enumFault (items : List Json) :
    (∃ enums, List.Forall₂ DescribesEnum items enums) ∨
      ∃ earlier item later enums error, items = earlier ++ item :: later ∧
        List.Forall₂ DescribesEnum earlier enums ∧ EnumFault item error := by
  induction items with
  | nil => exact .inl ⟨[], .nil⟩
  | cons item items ih =>
    rcases exists_describesEnum_or_enumFault item with ⟨enum, henum⟩ | ⟨error, hfault⟩
    · rcases ih with ⟨enums, henums⟩ | ⟨earlier, wrong, later, enums, error, rfl, henums, hfault⟩
      · exact .inl ⟨enum :: enums, .cons henum henums⟩
      · exact .inr ⟨item :: earlier, wrong, later, enum :: enums, error, rfl, .cons henum henums,
          hfault⟩
    · exact .inr ⟨[], item, items, [], error, rfl, .nil, hfault⟩

/-- A document describes enumerations or has a first fault. -/
theorem exists_describesDocument_or_documentFault (document : Json) :
    (∃ enums, DescribesDocument document enums) ∨ ∃ error, DocumentFault document error := by
  by_cases hlisted : ∃ fields items, document = .object fields ∧
      HasField fields "enums" (.list items)
  · obtain ⟨fields, items, rfl, hfield⟩ := hlisted
    rcases exists_describesEnums_or_enumFault items with
      ⟨enums, henums⟩ | ⟨earlier, item, later, enums, error, rfl, henums, hfault⟩
    · exact .inl ⟨enums, .object hfield henums⟩
    · exact .inr ⟨error, .enum hfield henums hfault⟩
  · refine .inr ⟨_, .missingEnums ?_⟩
    intro fields items hdocument hfield
    exact hlisted ⟨fields, items, hdocument, hfield⟩

/-- A document is loaded exactly as it describes. -/
theorem outcome_loadDocument_eq_ok_iff {document : Json} {enums : List EnumDescriptor} :
    (loadDocument document).outcome = .ok enums ↔ DescribesDocument document enums := by
  refine ⟨fun hload => ?_, DescribesDocument.outcome_loadDocument⟩
  rcases exists_describesDocument_or_documentFault document with ⟨others, hothers⟩ | ⟨error, hfault⟩
  · rw [hothers.outcome_loadDocument] at hload
    exact Except.ok.inj hload ▸ hothers
  · rw [hfault.outcome_loadDocument] at hload
    cases hload

/-- An error is reported exactly if it is the first fault of the document. -/
theorem outcome_loadDocument_eq_error_iff {document : Json} {error : DescriptorError} :
    (loadDocument document).outcome = .error error ↔ DocumentFault document error := by
  refine ⟨fun hload => ?_, DocumentFault.outcome_loadDocument⟩
  rcases exists_describesDocument_or_documentFault document with ⟨enums, henums⟩ | ⟨other, hother⟩
  · rw [henums.outcome_loadDocument] at hload
    cases hload
  · rw [hother.outcome_loadDocument] at hload
    exact Except.error.inj hload ▸ hother

end EnumBindings
