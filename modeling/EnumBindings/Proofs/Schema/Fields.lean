import EnumBindings.Proofs.Json.Value
import EnumBindings.Schema.Loading

/-!
# Fields of an object

What the fields of an object give, said without the functions that look them up. Each of these
functions finds exactly what the object gives.
-/

namespace EnumBindings

variable {fields : List (String × Json)} {key : String} {value : Json}

/-- An object has a field. Of several fields with one key the last counts. -/
def HasField (fields : List (String × Json)) (key : String) (value : Json) : Prop :=
  ∃ earlier later, fields = earlier ++ (key, value) :: later ∧ ∀ field ∈ later, field.1 ≠ key

/-- An object has no field with a key. -/
def LacksField (fields : List (String × Json)) (key : String) : Prop :=
  ∀ field ∈ fields, field.1 ≠ key

/-- The field that is found is the one that the object has. -/
theorem fieldOf?_eq_some_iff : fieldOf? key fields = some value ↔ HasField fields key value := by
  unfold fieldOf? HasField
  rw [List.lookup_eq_some_iff]
  constructor
  · rintro ⟨later, earlier, hfields, hlater⟩
    refine ⟨earlier.reverse, later.reverse, ?_, ?_⟩
    · have hreverse := congrArg List.reverse hfields
      simpa using hreverse
    · intro field hfield hkey
      have hne := hlater field (List.mem_reverse.mp hfield)
      simp [hkey] at hne
  · rintro ⟨earlier, later, rfl, hlater⟩
    refine ⟨later.reverse, earlier.reverse, by simp, ?_⟩
    intro field hfield
    have hne := hlater field (List.mem_reverse.mp hfield)
    exact bne_iff_ne.mpr hne.symm

/-- No field is found exactly if the object lacks it. -/
theorem fieldOf?_eq_none_iff : fieldOf? key fields = none ↔ LacksField fields key := by
  unfold fieldOf? LacksField
  rw [List.lookup_eq_none_iff]
  constructor
  · intro hnone field hfield
    have hne := hnone field (List.mem_reverse.mpr hfield)
    exact (bne_iff_ne.mp hne).symm
  · intro hlacks field hfield
    exact bne_iff_ne.mpr (hlacks field (List.mem_reverse.mp hfield)).symm

/-- An object has a field or lacks it. -/
theorem exists_hasField_or_lacksField (fields : List (String × Json)) (key : String) :
    (∃ value, HasField fields key value) ∨ LacksField fields key := by
  cases hfield : fieldOf? key fields with
  | none => exact .inr (fieldOf?_eq_none_iff.mp hfield)
  | some value => exact .inl ⟨value, fieldOf?_eq_some_iff.mp hfield⟩

/-- A field has one value. -/
theorem HasField.unique {other : Json} (hvalue : HasField fields key value)
    (hother : HasField fields key other) : value = other := by
  rw [← fieldOf?_eq_some_iff] at hvalue hother
  exact Option.some.inj (hvalue.symm.trans hother)

/-- What an object has it does not lack. -/
theorem HasField.not_lacksField (hvalue : HasField fields key value) : ¬ LacksField fields key := by
  rw [← fieldOf?_eq_some_iff] at hvalue
  rw [← fieldOf?_eq_none_iff, hvalue]
  exact Option.some_ne_none value

/-! ## What an object gives -/

/-- The object gives a name, which is a text and not empty. -/
def GivesName (fields : List (String × Json)) (name : String) : Prop :=
  HasField fields "name" (.text name) ∧ name ≠ ""

/-- The object gives a comment, or none: the field may be absent or null. -/
inductive GivesComment (fields : List (String × Json)) : Option String → Prop
  | absent : LacksField fields "comment" → GivesComment fields none
  | null : HasField fields "comment" .null → GivesComment fields none
  | text {comment : String} : HasField fields "comment" (.text comment) →
      GivesComment fields (some comment)

/-- The object is marked as deprecated: it has the field, and its value counts as set. -/
def MarksDeprecated (fields : List (String × Json)) : Prop :=
  ∃ value, HasField fields "deprecated" value ∧ ¬ value.Unset

/-- The object has a field under one of two keys. The second key counts only where the first is
absent. -/
inductive HasEither (fields : List (String × Json)) (first second : String) (value : Json) : Prop
  | first : HasField fields first value → HasEither fields first second value
  | second : LacksField fields first → HasField fields second value →
      HasEither fields first second value

/-- The full name of an enumeration: a text that is not empty under either key, and the name
itself if both are absent. -/
inductive GivesFullName (fields : List (String × Json)) (name : String) : String → Prop
  | given {fullName : String} : HasEither fields "fullName" "full_name" (.text fullName) →
      fullName ≠ "" → GivesFullName fields name fullName
  | own : LacksField fields "fullName" → LacksField fields "full_name" →
      GivesFullName fields name name

/-- The object lists items as the values of an enumeration. -/
def GivesValues (fields : List (String × Json)) (items : List Json) : Prop :=
  HasEither fields "values" "value" (.list items)

theorem nameField?_eq_some_iff {name : String} :
    nameField? fields = some name ↔ GivesName fields name := by
  unfold nameField? GivesName
  rw [← fieldOf?_eq_some_iff]
  constructor
  · intro hname
    split at hname
    · rename_i given hgiven
      split at hname
      · cases hname
      · rename_i hempty
        obtain rfl : given = name := Option.some.inj hname
        exact ⟨hgiven, fun hname => hempty (String.isEmpty_iff.mpr hname)⟩
    · cases hname
  · rintro ⟨hfield, hname⟩
    rw [hfield]
    exact if_neg fun hempty => hname (String.isEmpty_iff.mp hempty)

theorem nameField?_eq_none_iff : nameField? fields = none ↔ ∀ name, ¬ GivesName fields name := by
  rw [Option.eq_none_iff_forall_ne_some]
  exact forall_congr' fun name => not_congr nameField?_eq_some_iff

/-- A comment that the object gives is read. -/
theorem GivesComment.commentField_eq {comment : Option String}
    (hcomment : GivesComment fields comment) (error : DescriptorError) :
    commentField fields error = .ok comment := by
  unfold commentField
  cases hcomment with
  | absent hlacks => rw [fieldOf?_eq_none_iff.mpr hlacks]
  | null hfield => rw [fieldOf?_eq_some_iff.mpr hfield]
  | text hfield => rw [fieldOf?_eq_some_iff.mpr hfield]

/-- Any other comment is an error. -/
theorem commentField_eq_error (hcomment : ∀ comment, ¬ GivesComment fields comment)
    (error : DescriptorError) : commentField fields error = .error error := by
  unfold commentField
  split
  · rename_i hnone
    exact (hcomment none (.absent (fieldOf?_eq_none_iff.mp hnone))).elim
  · rename_i hnull
    exact (hcomment none (.null (fieldOf?_eq_some_iff.mp hnull))).elim
  · rename_i comment htext
    exact (hcomment comment (.text (fieldOf?_eq_some_iff.mp htext))).elim
  · rfl

theorem deprecatedField_eq_true_iff : deprecatedField fields = true ↔ MarksDeprecated fields := by
  unfold deprecatedField MarksDeprecated
  rcases exists_hasField_or_lacksField fields "deprecated" with ⟨value, hvalue⟩ | hlacks
  · rw [fieldOf?_eq_some_iff.mpr hvalue]
    constructor
    · intro hset
      exact ⟨value, hvalue, Json.isSet_eq_true_iff.mp hset⟩
    · rintro ⟨other, hother, hset⟩
      rw [hother.unique hvalue] at hset
      exact Json.isSet_eq_true_iff.mpr hset
  · rw [fieldOf?_eq_none_iff.mpr hlacks]
    refine iff_of_false Bool.false_ne_true ?_
    rintro ⟨value, hvalue, _⟩
    exact hvalue.not_lacksField hlacks

theorem firstFieldOf?_eq_some_iff {first second : String} :
    firstFieldOf? [first, second] fields = some value ↔ HasEither fields first second value := by
  have hfirst : firstFieldOf? [first, second] fields =
      (fieldOf? first fields).or (fieldOf? second fields) := by
    unfold firstFieldOf?
    cases hfound : fieldOf? first fields with
    | none =>
      rw [List.findSome?_cons_of_isNone (by rw [hfound]; rfl), Option.none_or]
      exact List.findSome?_singleton
    | some found => rw [List.findSome?_cons_of_isSome (by rw [hfound]; rfl), hfound, Option.some_or]
  rw [hfirst, Option.or_eq_some_iff, fieldOf?_eq_some_iff, fieldOf?_eq_none_iff,
    fieldOf?_eq_some_iff]
  constructor
  · rintro (hfield | ⟨hlacks, hfield⟩)
    · exact .first hfield
    · exact .second hlacks hfield
  · rintro (hfield | ⟨hlacks, hfield⟩)
    · exact .inl hfield
    · exact .inr ⟨hlacks, hfield⟩

theorem firstFieldOf?_eq_none_iff {first second : String} :
    firstFieldOf? [first, second] fields = none ↔
      LacksField fields first ∧ LacksField fields second := by
  unfold firstFieldOf?
  rw [List.findSome?_eq_none_iff, ← fieldOf?_eq_none_iff, ← fieldOf?_eq_none_iff]
  simp

theorem fullNameField?_eq_some_iff {name fullName : String} :
    fullNameField? name fields = some fullName ↔ GivesFullName fields name fullName := by
  unfold fullNameField?
  constructor
  · intro hfound
    split at hfound
    · rename_i hnone
      obtain rfl : name = fullName := Option.some.inj hfound
      obtain ⟨hcamel, hsnake⟩ := firstFieldOf?_eq_none_iff.mp hnone
      exact .own hcamel hsnake
    · rename_i given hgiven
      split at hfound
      · cases hfound
      · rename_i hempty
        obtain rfl : given = fullName := Option.some.inj hfound
        exact .given (firstFieldOf?_eq_some_iff.mp hgiven)
          fun hname => hempty (String.isEmpty_iff.mpr hname)
    · cases hfound
  · intro hgives
    cases hgives with
    | given heither hname =>
      rw [firstFieldOf?_eq_some_iff.mpr heither]
      exact if_neg fun hempty => hname (String.isEmpty_iff.mp hempty)
    | own hcamel hsnake => rw [firstFieldOf?_eq_none_iff.mpr ⟨hcamel, hsnake⟩]

theorem fullNameField?_eq_none_iff {name : String} :
    fullNameField? name fields = none ↔ ∀ fullName, ¬ GivesFullName fields name fullName := by
  rw [Option.eq_none_iff_forall_ne_some]
  exact forall_congr' fun fullName => not_congr fullNameField?_eq_some_iff

theorem valuesField?_eq_some_iff {items : List Json} :
    valuesField? fields = some items ↔ GivesValues fields items := by
  unfold valuesField? GivesValues
  rw [← firstFieldOf?_eq_some_iff]
  constructor
  · intro hfound
    split at hfound
    · rename_i listed hlisted
      obtain rfl : listed = items := Option.some.inj hfound
      exact hlisted
    · cases hfound
  · intro hlisted
    rw [hlisted]

theorem valuesField?_eq_none_iff :
    valuesField? fields = none ↔ ∀ items, ¬ GivesValues fields items := by
  rw [Option.eq_none_iff_forall_ne_some]
  exact forall_congr' fun items => not_congr valuesField?_eq_some_iff

/-- A full name is never empty. -/
theorem GivesFullName.ne_empty {name fullName : String}
    (hfullName : GivesFullName fields name fullName) (hname : name ≠ "") : fullName ≠ "" := by
  cases hfullName with
  | given _ hne => exact hne
  | own _ _ => exact hname

end EnumBindings
