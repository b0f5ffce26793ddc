import EnumBindings.Options.Parameter
import EnumBindings.Proofs.Text.Trimming

/-!
# What one entry of an option string says

An entry names a field by its key and gives the value behind its first equals sign. An entry is read
as the setting that it gives, and the white space around it, around its key and around its value,
and the value `true` that may be left out, do not change what it gives.
-/

namespace EnumBindings

/-- A field is found by its name. -/
@[simp] theorem Field.ofName?_name (field : Field) : Field.ofName? field.name = some field := by
  cases field with
  | flag which => cases which <;> decide
  | jsonMethods => decide
  | sentinelName => decide
  | sentinelCode => decide

/-- All fields are listed. -/
theorem Field.mem_all (field : Field) : field ∈ Field.all :=
  List.mem_of_find?_eq_some (ofName?_name field)

/-- What is found by a name is the field with that name. -/
theorem Field.ofName?_eq_some_iff {name : String} {field : Field} :
    Field.ofName? name = some field ↔ name = field.name := by
  constructor
  · intro hfound
    have hname := List.find?_some hfound
    exact (of_decide_eq_true hname).symm
  · rintro rfl
    exact ofName?_name field

namespace Field

variable {field : Field} {key : String} {raw other : List Char} {setting : Setting}

/-- The setting that a text stands for, if it is a value of the field. -/
def denoted? (raw : List Char) : Field → Option Setting
  | .flag which => (switch? raw).map (.flag which)
  | .jsonMethods => (JsonMethods.ofText? raw).map .jsonMethods
  | .sentinelCode => (Text.integer? (Text.trim raw)).map .sentinelCode
  | .sentinelName =>
    if Text.isIdentifier (Text.trim raw) then some (.sentinelName (String.ofList (Text.trim raw)))
    else none

/-- A text is read as the setting that it stands for. -/
theorem read_eq_ok_iff : field.read key raw = .ok setting ↔ field.denoted? raw = some setting := by
  cases field with
  | flag which =>
    rw [read, denoted?]
    cases switch? raw <;> simp
  | jsonMethods =>
    rw [read, denoted?]
    cases JsonMethods.ofText? raw <;> simp
  | sentinelCode =>
    rw [read, denoted?]
    cases Text.integer? (Text.trim raw) <;> simp
  | sentinelName =>
    rw [read, denoted?]
    by_cases hname : Text.isIdentifier (Text.trim raw) = true <;> simp [hname]

/-- A text for a field is read as a setting of the field. -/
theorem field_of_read (hread : field.read key raw = .ok setting) : setting.field = field := by
  rw [read_eq_ok_iff] at hread
  cases field with
  | flag which =>
    obtain ⟨_, _, rfl⟩ := Option.map_eq_some_iff.mp hread
    rfl
  | jsonMethods =>
    obtain ⟨_, _, rfl⟩ := Option.map_eq_some_iff.mp hread
    rfl
  | sentinelCode =>
    obtain ⟨_, _, rfl⟩ := Option.map_eq_some_iff.mp hread
    rfl
  | sentinelName =>
    obtain ⟨_, hsetting⟩ := Option.ite_none_right_eq_some.mp hread
    rw [← Option.some.inj hsetting]
    rfl

/-- White space around a text is not read. -/
theorem denoted?_congr (htrim : Text.trim raw = Text.trim other) :
    field.denoted? raw = field.denoted? other := by
  have hswitch : switch? raw = switch? other := by rw [switch?, switch?, htrim]
  cases field with
  | flag which => rw [denoted?, denoted?, hswitch]
  | jsonMethods =>
    rw [denoted?, denoted?, JsonMethods.ofText?, JsonMethods.ofText?, hswitch, htrim]
  | sentinelCode => rw [denoted?, denoted?, htrim]
  | sentinelName => rw [denoted?, denoted?, htrim]

end Field

/-- The key of an entry: what stands before its first equals sign, without white space around. -/
def keyOf (entry : List Char) : List Char :=
  Text.trim (Text.cutAtFirst '=' entry).1

/-- The value of an entry: what stands behind its first equals sign, or `true`. -/
def valueOf (entry : List Char) : List Char :=
  (Text.cutAtFirst '=' entry).2.getD ['t', 'r', 'u', 'e']

/-- Whether an entry names a field: its key is the name of the field when it is written in small
letters with underscores. -/
def Names (entry : List Char) (field : Field) : Prop :=
  String.ofList (Text.underscored (keyOf entry)) = field.name

instance (entry : List Char) (field : Field) : Decidable (Names entry field) :=
  inferInstanceAs (Decidable (_ = _))

/-- Whether an entry gives a setting: it names the field of the setting, and its value is read as
the setting. -/
def Gives (entry : List Char) (setting : Setting) : Prop :=
  Names entry setting.field ∧
    setting.field.read (String.ofList (keyOf entry)) (valueOf entry) = .ok setting

section Entry

variable {entry other : List Char} {field : Field} {setting : Setting}

/-- An entry names one field at most. -/
theorem Names.unique {first second : Field} (hfirst : Names entry first)
    (hsecond : Names entry second) : first = second := by
  have hfound := Field.ofName?_eq_some_iff.mpr hfirst
  rw [Field.ofName?_eq_some_iff.mpr hsecond] at hfound
  exact (Option.some.inj hfound).symm

/-- An entry that gives a setting names no field but that of the setting. -/
theorem Gives.names_iff (hgives : Gives entry setting) :
    Names entry field ↔ setting.field = field :=
  ⟨hgives.1.unique, fun h => h ▸ hgives.1⟩

/-- The value of an entry is read for the field that the entry names. -/
theorem ofEntry_of_names (hnames : Names entry field) :
    Setting.ofEntry entry = field.read (String.ofList (keyOf entry)) (valueOf entry) := by
  have hfound := Field.ofName?_eq_some_iff.mpr hnames
  unfold Setting.ofEntry
  unfold keyOf at hfound ⊢
  unfold valueOf
  cases hcut : Text.cutAtFirst '=' entry with
  | mk spelling raw =>
    rw [hcut] at hfound
    simp only [hfound]

/-- An entry that names no field is not read. -/
theorem ofEntry_of_not_names (hnames : ∀ field, ¬Names entry field) :
    Setting.ofEntry entry = .error ⟨.unknownOption, some (String.ofList (keyOf entry)), none⟩ := by
  have hnone : Field.ofName? (String.ofList (Text.underscored (keyOf entry))) = none :=
    Option.eq_none_iff_forall_ne_some.mpr fun field hfound =>
      hnames field (Field.ofName?_eq_some_iff.mp hfound)
  unfold Setting.ofEntry
  unfold keyOf at hnone ⊢
  cases hcut : Text.cutAtFirst '=' entry with
  | mk spelling raw =>
    rw [hcut] at hnone
    simp only [hnone]

/-- An entry is read as the setting that it gives. -/
theorem ofEntry_eq_ok_iff : Setting.ofEntry entry = .ok setting ↔ Gives entry setting := by
  constructor
  · intro hread
    by_cases hnames : ∃ field, Names entry field
    · obtain ⟨field, hfield⟩ := hnames
      rw [ofEntry_of_names hfield] at hread
      have hsetting := Field.field_of_read hread
      rw [← hsetting] at hfield hread
      exact ⟨hfield, hread⟩
    · rw [ofEntry_of_not_names fun field h => hnames ⟨field, h⟩] at hread
      cases hread
  · rintro ⟨hnames, hread⟩
    rw [ofEntry_of_names hnames, hread]

/-- What an entry gives depends on its key and on its value without white space around it. -/
theorem gives_congr (hkey : keyOf entry = keyOf other)
    (hvalue : Text.trim (valueOf entry) = Text.trim (valueOf other)) :
    Gives entry setting ↔ Gives other setting := by
  rw [Gives, Gives, Field.read_eq_ok_iff, Field.read_eq_ok_iff, Field.denoted?_congr hvalue, Names,
    Names, hkey]

/-- An entry with an equals sign is cut there. -/
theorem keyOf_append_cons {key : List Char} (hkey : '=' ∉ key) (value : List Char) :
    keyOf (key ++ '=' :: value) = Text.trim key := by
  rw [keyOf, Text.cutAtFirst_append_cons hkey]

theorem valueOf_append_cons {key : List Char} (hkey : '=' ∉ key) (value : List Char) :
    valueOf (key ++ '=' :: value) = value := by
  rw [valueOf, Text.cutAtFirst_append_cons hkey]
  rfl

/-- An entry without an equals sign is a key. -/
theorem keyOf_of_notMem (hentry : '=' ∉ entry) : keyOf entry = Text.trim entry := by
  rw [keyOf, Text.cutAtFirst_of_notMem hentry]

theorem valueOf_of_notMem (hentry : '=' ∉ entry) : valueOf entry = ['t', 'r', 'u', 'e'] := by
  rw [valueOf, Text.cutAtFirst_of_notMem hentry]
  rfl

/-- An entry spelled in another way: with white space around it, with white space around its equals
sign, or as a key with the value `true`. -/
inductive Respells : List Char → List Char → Prop
  | around {entry left right : List Char} (hleft : Text.IsBlankText left)
      (hright : Text.IsBlankText right) : Respells entry (left ++ entry ++ right)
  | aroundEquals {key value left right : List Char} (hkey : '=' ∉ key)
      (hleft : Text.IsBlankText left) (hright : Text.IsBlankText right) :
      Respells (key ++ '=' :: value) (key ++ left ++ '=' :: (right ++ value))
  | bare {key : List Char} (hkey : '=' ∉ key) (hvisible : ¬Text.IsBlankText key) :
      Respells key (key ++ "=true".toList)

namespace Respells

variable (hspelled : Respells entry other)

include hspelled

/-- The key stays the same, and so does the value but for white space around it. -/
theorem keyOf_valueOf_eq : keyOf entry = keyOf other ∧
    Text.trim (valueOf entry) = Text.trim (valueOf other) := by
  have hequals {blank : List Char} (hblank : Text.IsBlankText blank) : '=' ∉ blank :=
    hblank.notMem (by decide)
  cases hspelled with
  | @around _ left right hleft hright =>
    by_cases hentry : '=' ∈ entry
    · obtain ⟨key, value, rfl, hkey⟩ := List.eq_append_cons_of_mem hentry
      have hwhole : left ++ (key ++ '=' :: value) ++ right =
          left ++ key ++ '=' :: (value ++ right) := by simp
      have hlonger : '=' ∉ left ++ key := by simp [hequals hleft, hkey]
      rw [hwhole, keyOf_append_cons hkey, keyOf_append_cons hlonger, valueOf_append_cons hkey,
        valueOf_append_cons hlonger, Text.trim_append_left hleft, Text.trim_append_right hright]
      exact ⟨rfl, rfl⟩
    · have hlonger : '=' ∉ left ++ entry ++ right := by
        simp [hequals hleft, hequals hright, hentry]
      rw [keyOf_of_notMem hentry, keyOf_of_notMem hlonger, valueOf_of_notMem hentry,
        valueOf_of_notMem hlonger, Text.trim_append_of_blank hleft hright]
      exact ⟨rfl, rfl⟩
  | @aroundEquals key value left right hkey hleft hright =>
    have hlonger : '=' ∉ key ++ left := by simp [hequals hleft, hkey]
    rw [keyOf_append_cons hkey, keyOf_append_cons hlonger, valueOf_append_cons hkey,
      valueOf_append_cons hlonger, Text.trim_append_left hright, Text.trim_append_right hleft]
    exact ⟨rfl, rfl⟩
  | bare hkey hvisible =>
    have hcut : "=true".toList = '=' :: ['t', 'r', 'u', 'e'] := rfl
    rw [hcut, keyOf_of_notMem hkey, keyOf_append_cons hkey, valueOf_of_notMem hkey,
      valueOf_append_cons hkey]
    exact ⟨rfl, rfl⟩

/-- The entry gives the same setting. -/
theorem gives_iff : Gives entry setting ↔ Gives other setting :=
  gives_congr hspelled.keyOf_valueOf_eq.1 hspelled.keyOf_valueOf_eq.2

/-- The entry names the same field. -/
theorem names_iff : Names entry field ↔ Names other field := by
  rw [Names, Names, hspelled.keyOf_valueOf_eq.1]

/-- An entry that is visible stays so. -/
theorem trim_eq_nil_iff : Text.trim entry = [] ↔ Text.trim other = [] := by
  have hvisible {before behind : List Char} : Text.trim (before ++ '=' :: behind) ≠ [] := fun h =>
    absurd (Text.trim_eq_nil_iff.mp h '=' (by simp)) (by decide)
  cases hspelled with
  | around hleft hright => rw [Text.trim_append_of_blank hleft hright]
  | aroundEquals hkey hleft hright => exact iff_of_false hvisible hvisible
  | bare hkey hblank => exact iff_of_false (mt Text.trim_eq_nil_iff.mp hblank) hvisible

/-- An entry without commas stays so. -/
theorem comma_mem_iff : ',' ∈ entry ↔ ',' ∈ other := by
  have hcomma {blank : List Char} (hblank : Text.IsBlankText blank) : ',' ∉ blank :=
    hblank.notMem (by decide)
  cases hspelled with
  | around hleft hright => simp [hcomma hleft, hcomma hright]
  | aroundEquals hkey hleft hright => simp [hcomma hleft, hcomma hright]
  | bare hkey hblank => simp

end Respells

/-- An entry is its trimmed form with white space around it. -/
theorem respells_trim (entry : List Char) : Respells (Text.trim entry) entry := by
  obtain ⟨left, right, hleft, hright, hentry⟩ := Text.exists_eq_append_trim entry
  have haround := @Respells.around (Text.trim entry) left right hleft hright
  rwa [← hentry] at haround

/-- A blank entry names no field. -/
theorem not_names_of_blank (hblank : Text.IsBlankText entry) (field : Field) :
    ¬Names entry field := by
  have hkey : keyOf entry = [] := by
    rw [keyOf_of_notMem (hblank.notMem (by decide)), Text.trim_eq_nil_iff]
    exact hblank
  have hnames : ∀ field ∈ Field.all, "" ≠ field.name := by decide
  rw [Names, hkey]
  exact hnames field field.mem_all

end Entry

end EnumBindings
