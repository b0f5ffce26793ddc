import EnumBindings.Proofs.Schema.Fields
import EnumBindings.Proofs.Traversal

/-!
# What a document describes

The enumerations that a document describes, said without the functions that load them. What a
document describes is loaded.
-/

namespace EnumBindings

/-- The fields of an object that is a value of an enumeration. -/
structure ValueFields (fields : List (String × Json)) (value : EnumValue) : Prop where
  name : GivesName fields value.name
  number : HasField fields "number" (.int value.number)
  comment : GivesComment fields value.comment
  deprecated : value.deprecated = true ↔ MarksDeprecated fields

/-- An item of a document that describes a value. -/
inductive DescribesValue : Json → EnumValue → Prop
  | object {fields : List (String × Json)} {value : EnumValue} :
      ValueFields fields value → DescribesValue (.object fields) value

/-- The fields of an object that is an enumeration. Its values are described by the items in order,
and no two of them have one name. -/
structure EnumFields (fields : List (String × Json)) (enum : EnumDescriptor) : Prop where
  name : GivesName fields enum.name
  fullName : GivesFullName fields enum.name enum.fullName
  values : ∃ items, GivesValues fields items ∧ List.Forall₂ DescribesValue items enum.values
  distinct : (enum.values.map (·.name)).Nodup
  comment : GivesComment fields enum.comment
  deprecated : enum.deprecated = true ↔ MarksDeprecated fields

/-- An item of a document that describes an enumeration. -/
inductive DescribesEnum : Json → EnumDescriptor → Prop
  | object {fields : List (String × Json)} {enum : EnumDescriptor} :
      EnumFields fields enum → DescribesEnum (.object fields) enum

/-- A document that describes enumerations: it lists one item for each of them, in order. -/
inductive DescribesDocument : Json → List EnumDescriptor → Prop
  | object {fields : List (String × Json)} {items : List Json} {enums : List EnumDescriptor} :
      HasField fields "enums" (.list items) → List.Forall₂ DescribesEnum items enums →
      DescribesDocument (.object fields) enums

/-- An enumeration whose full name and value names are not empty, no two of the latter equal. -/
structure EnumDescriptor.Named (enum : EnumDescriptor) : Prop where
  fullName : enum.fullName ≠ ""
  names : ∀ value ∈ enum.values, value.name ≠ ""
  distinct : (enum.values.map (·.name)).Nodup

/-- A value that an item describes has a name. -/
theorem DescribesValue.name_ne_empty {item : Json} {value : EnumValue}
    (hvalue : DescribesValue item value) : value.name ≠ "" := by
  cases hvalue with
  | object hfields => exact hfields.name.2

/-- An enumeration that an item describes is named. -/
theorem DescribesEnum.named {item : Json} {enum : EnumDescriptor}
    (henum : DescribesEnum item enum) : enum.Named := by
  cases henum with
  | object hfields =>
    obtain ⟨_, _, hvalues⟩ := hfields.values
    refine ⟨hfields.fullName.ne_empty hfields.name.2, fun value hvalue => ?_, hfields.distinct⟩
    obtain ⟨item, _, hitem⟩ := exists_related_of_mem hvalues hvalue
    exact hitem.name_ne_empty

/-- The enumerations of a document are named. -/
theorem DescribesDocument.named {document : Json} {enums : List EnumDescriptor}
    (hdocument : DescribesDocument document enums) : ∀ enum ∈ enums, enum.Named := by
  cases hdocument with
  | object _ henums =>
    intro enum henum
    obtain ⟨item, _, hitem⟩ := exists_related_of_mem henums henum
    exact hitem.named

/-- The mark of an object is the one that is read. -/
theorem deprecatedField_eq {fields : List (String × Json)} {deprecated : Bool}
    (hmark : deprecated = true ↔ MarksDeprecated fields) :
    deprecatedField fields = deprecated :=
  Bool.eq_iff_iff.mpr (deprecatedField_eq_true_iff.trans hmark.symm)

/-- A value that an item describes is read from it. -/
theorem DescribesValue.ofJson_eq {item : Json} {value : EnumValue}
    (hvalue : DescribesValue item value) (enumName : String) :
    EnumValue.ofJson enumName item = .ok value := by
  cases hvalue with
  | object hfields =>
    have hname := nameField?_eq_some_iff.mpr hfields.name
    have hnumber := fieldOf?_eq_some_iff.mpr hfields.number
    have hcomment := hfields.comment.commentField_eq
      ⟨.commentNotText, some enumName, some value.name⟩
    have hdeprecated := deprecatedField_eq hfields.deprecated
    simp only [EnumValue.ofJson, hname, hnumber, hcomment, hdeprecated]
    rfl

/-- The values that items describe are read in order, and the other items after them. -/
theorem listOfJson_append {items : List Json} {values : List EnumValue}
    (hvalues : List.Forall₂ DescribesValue items values) (enumName : String) :
    ∀ (taken : List String) (rest : List Json), (values.map (·.name)).Nodup →
      (∀ value ∈ values, value.name ∉ taken) →
      EnumValue.listOfJson enumName taken (items ++ rest) =
        (EnumValue.listOfJson enumName ((values.map (·.name)).reverse ++ taken) rest).map
          (values ++ ·) := by
  induction hvalues with
  | nil =>
    intro taken rest _ _
    show EnumValue.listOfJson enumName taken rest =
      (EnumValue.listOfJson enumName taken rest).map ([] ++ ·)
    cases EnumValue.listOfJson enumName taken rest <;> rfl
  | @cons item value items values hvalue _ ih =>
    intro taken rest hdistinct hfresh
    obtain ⟨hnew, hdistinct⟩ := List.nodup_cons.mp hdistinct
    have hlater : ∀ later ∈ values, later.name ∉ value.name :: taken := by
      intro later hmem
      refine List.not_mem_cons_of_ne_of_not_mem ?_ (hfresh later (List.mem_cons_of_mem _ hmem))
      intro hname
      exact hnew (List.mem_map.mpr ⟨later, hmem, hname⟩)
    have hrest := ih (value.name :: taken) rest hdistinct hlater
    have hstep : EnumValue.listOfJson enumName taken (item :: (items ++ rest)) =
        (EnumValue.listOfJson enumName (value.name :: taken) (items ++ rest)).map
          (value :: ·) := by
      rw [EnumValue.listOfJson, hvalue.ofJson_eq]
      show (if value.name ∈ taken then _ else _) = _
      rw [if_neg (hfresh value List.mem_cons_self)]
      cases EnumValue.listOfJson enumName (value.name :: taken) (items ++ rest) <;> rfl
    rw [List.cons_append, hstep, hrest, List.map_cons, List.reverse_cons, List.append_assoc,
      List.singleton_append]
    cases EnumValue.listOfJson enumName _ rest <;> rfl

/-- The values that items describe are read from them if their names are distinct. -/
theorem listOfJson_eq {items : List Json} {values : List EnumValue}
    (hvalues : List.Forall₂ DescribesValue items values)
    (hdistinct : (values.map (·.name)).Nodup) (enumName : String) :
    EnumValue.listOfJson enumName [] items = .ok values := by
  have happend := listOfJson_append hvalues enumName [] [] hdistinct fun _ _ => List.not_mem_nil
  rw [List.append_nil] at happend
  rw [happend, EnumValue.listOfJson]
  exact congrArg Except.ok (List.append_nil values)

/-- An enumeration that an item describes is read from it. -/
theorem DescribesEnum.ofJson_eq {item : Json} {enum : EnumDescriptor}
    (henum : DescribesEnum item enum) : (EnumDescriptor.ofJson item).outcome = .ok enum := by
  cases henum with
  | object hfields =>
    obtain ⟨items, hitems, hvalues⟩ := hfields.values
    have hname := nameField?_eq_some_iff.mpr hfields.name
    have hfullName := fullNameField?_eq_some_iff.mpr hfields.fullName
    have hlisted := valuesField?_eq_some_iff.mpr hitems
    have hread := listOfJson_eq hvalues hfields.distinct enum.fullName
    have hcomment := hfields.comment.commentField_eq ⟨.commentNotText, some enum.fullName, none⟩
    have hdeprecated := deprecatedField_eq hfields.deprecated
    simp only [EnumDescriptor.ofJson, hname, hfullName, hlisted, hread, hcomment, hdeprecated,
      Reported.outcome_bind, Reported.outcome_ofExcept, Reported.outcome_report]
    rfl

/-- The enumerations that items describe are read in order, and the other items after them. -/
theorem outcome_mapM_append {items : List Json} {enums : List EnumDescriptor}
    (henums : List.Forall₂ DescribesEnum items enums) (rest : List Json) :
    ((items ++ rest).mapM EnumDescriptor.ofJson).outcome =
      (rest.mapM EnumDescriptor.ofJson).outcome.map (enums ++ ·) := by
  induction henums with
  | nil =>
    rw [List.nil_append]
    cases (rest.mapM EnumDescriptor.ofJson).outcome <;> rfl
  | @cons item enum items enums henum _ ih =>
    rw [List.cons_append, List.mapM_cons, Reported.outcome_bind, henum.ofJson_eq]
    show (((items ++ rest).mapM EnumDescriptor.ofJson >>= fun enums => pure (enum :: enums) :
      Reported DescriptorError (List EnumDescriptor))).outcome = _
    rw [Reported.outcome_bind, ih]
    cases (rest.mapM EnumDescriptor.ofJson).outcome <;> rfl

/-- The enumerations that a document describes are loaded from it. -/
theorem DescribesDocument.outcome_loadDocument {document : Json} {enums : List EnumDescriptor}
    (hdocument : DescribesDocument document enums) :
    (loadDocument document).outcome = .ok enums := by
  cases hdocument with
  | @object fields items _ hfield henums =>
    have hitems := fieldOf?_eq_some_iff.mpr hfield
    have hload : loadDocument (.object fields) = items.mapM EnumDescriptor.ofJson := by
      simp only [loadDocument, hitems]
    have happend := outcome_mapM_append henums []
    rw [List.append_nil] at happend
    rw [hload, happend, List.mapM_nil, Reported.outcome_pure]
    exact congrArg Except.ok (List.append_nil enums)

end EnumBindings
