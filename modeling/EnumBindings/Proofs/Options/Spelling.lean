import EnumBindings.Proofs.Options.LastEntry
import EnumBindings.Proofs.Script.Literal
import EnumBindings.Proofs.Text.AsciiCase
import EnumBindings.Proofs.Text.Values

/-!
# Options written as an option string

Each setting has a word for its value, and each field two keys: its name, and its name with capitals
instead of underscores. An option string with one entry for each field, in any order and with either
key, makes the options that it was written for, whatever options it extends.
-/

namespace EnumBindings

/-- A name in words, with a capital instead of each underscore and the letter behind it. -/
def Text.camelCased : List Char → List Char
  | '_' :: c :: text => c.toUpper :: camelCased text
  | c :: text => c :: camelCased text
  | [] => []

/-- How a key is written: in words of capitals and small letters, or with underscores. -/
inductive KeyStyle where
  | camel
  | snake
  deriving DecidableEq, Repr

/-- The key of a field. -/
def Field.key (field : Field) : KeyStyle → List Char
  | .camel => Text.camelCased field.name.toList
  | .snake => field.name.toList

/-- The word for the value of a setting. -/
def Setting.word : Setting → List Char
  | .flag _ on => if on then "true".toList else "false".toList
  | .jsonMethods methods => methods.word.toList
  | .sentinelName name => name.toList
  | .sentinelCode code => (toString code).toList

/-- The entry that gives a setting. -/
def Setting.entry (setting : Setting) (style : KeyStyle) : List Char :=
  setting.field.key style ++ '=' :: setting.word

/-- The entries that give the settings of some fields. -/
def Options.spelled (options : Options) (order : List Field) (style : Field → KeyStyle) :
    List (List Char) :=
  order.map fun field => (options.get field).entry (style field)

/-- Whether a setting can be read from its word: a name is an identifier, and a code has no more
digits than are read. -/
def Setting.Writable : Setting → Prop
  | .flag _ _ => True
  | .jsonMethods _ => True
  | .sentinelName name => Text.isIdentifier name.toList = true
  | .sentinelCode code => (Nat.toDigits 10 code.natAbs).length ≤ Text.digitLimit

/-- Characters that neither end an entry nor are trimmed off it. -/
def isInner (c : Char) : Bool :=
  !Text.isBlank c && c ≠ ','

theorem isInner_eq_true_iff {c : Char} :
    isInner c = true ↔ Text.isBlank c = false ∧ c ≠ ',' := by
  simp [isInner]

/-- Nothing is trimmed off a text of inner characters. -/
theorem trim_of_inner {text : List Char} (htext : ∀ c ∈ text, isInner c = true) :
    Text.trim text = text :=
  Text.trim_eq_self fun c hc => (isInner_eq_true_iff.mp (htext c hc)).1

/-- Digits are inner characters. -/
theorem isInner_of_isDigit {c : Char} (hc : c.isDigit = true) : isInner c = true := by
  have hcomma : c ≠ ',' := by
    rintro rfl
    cases hc
  exact isInner_eq_true_iff.mpr ⟨Text.isBlank_of_isDigit hc, hcomma⟩

namespace Field

/-- Each key of a field is spelled in inner characters of ASCII, without an equals sign, and is the
name of the field when its words are separated and written small. -/
theorem exists_letters (field : Field) : ∃ letters, field.name.toList = letters ∧
    ∀ key ∈ [Text.camelCased letters, letters],
      key.all (fun c => isInner c && c ≠ '=') = true ∧
      (Text.joinHyphens (Text.separateHumps (Text.separateAcronyms [] key))).all
        (·.toNat < 128) = true ∧
      (Text.joinHyphens (Text.separateHumps (Text.separateAcronyms [] key))).map Char.toLower =
        letters := by
  cases field with
  | flag which => cases which <;> exact ⟨_, String.toList_ofList, by decide +kernel⟩
  | _ => exact ⟨_, String.toList_ofList, by decide +kernel⟩

/-- A key is one of the two. -/
theorem key_mem (field : Field) (style : KeyStyle) :
    field.key style ∈ [Text.camelCased field.name.toList, field.name.toList] := by
  cases style with
  | camel => exact List.mem_cons_self
  | snake => exact List.mem_cons_of_mem _ List.mem_cons_self

/-- Each key names its field. -/
theorem underscored_key (field : Field) (style : KeyStyle) :
    String.ofList (Text.underscored (field.key style)) = field.name := by
  obtain ⟨_, rfl, hkeys⟩ := field.exists_letters
  obtain ⟨_, hascii, hname⟩ := hkeys _ (field.key_mem style)
  have hletters := List.all_eq_true.mp hascii
  rw [Text.underscored, Text.lower_of_ascii fun c hc => of_decide_eq_true (hletters c hc), hname,
    String.ofList_toList]

example : Field.jsonMethods.key .camel = "outputJsonMethods".toList := by decide

/-- Keys have inner characters only, and no equals sign. -/
theorem isInner_of_mem_key {field : Field} {style : KeyStyle} :
    ∀ c ∈ field.key style, isInner c = true ∧ c ≠ '=' := by
  obtain ⟨_, rfl, hkeys⟩ := field.exists_letters
  obtain ⟨hinner, _⟩ := hkeys _ (field.key_mem style)
  simpa [List.all_eq_true] using hinner

end Field

namespace Setting

variable {setting : Setting} {style : KeyStyle}

/-- Words have inner characters only. -/
theorem isInner_of_mem_word (hsetting : setting.Writable) :
    ∀ c ∈ setting.word, isInner c = true := by
  cases setting with
  | flag which on => cases which <;> cases on <;> exact List.all_eq_true.mp (by decide)
  | jsonMethods methods => cases methods <;> exact List.all_eq_true.mp (by decide)
  | sentinelName name =>
    intro c hc
    have hpart := Script.isIdentifierPart_of_mem hsetting c hc
    have hcomma : c ≠ ',' := by
      rintro rfl
      exact absurd hpart (by decide)
    exact isInner_eq_true_iff.mpr ⟨Text.isBlank_of_isIdentifierPart hpart, hcomma⟩
  | sentinelCode code =>
    intro c hc
    rcases Text.eq_minus_or_isDigit_of_mem_toString hc with rfl | hdigit
    · decide
    · exact isInner_of_isDigit hdigit

/-- A word is read as its setting. -/
theorem denoted?_word (hsetting : setting.Writable) :
    setting.field.denoted? setting.word = some setting := by
  have htrim := trim_of_inner (isInner_of_mem_word hsetting)
  cases setting with
  | flag which on => cases on <;> rfl
  | jsonMethods methods => cases methods <;> rfl
  | sentinelName name =>
    have hname : Text.isIdentifier name.toList = true := hsetting
    have htext : Text.trim name.toList = name.toList := htrim
    rw [field, Field.denoted?, word, htext, if_pos hname, String.ofList_toList]
  | sentinelCode code =>
    have htext : Text.trim (toString code).toList = (toString code).toList := htrim
    rw [field, Field.denoted?, word, htext, Text.integer?_toString hsetting]
    rfl

/-- An entry gives its setting. -/
theorem gives_entry (hsetting : setting.Writable) : Gives (setting.entry style) setting := by
  have hequals : '=' ∉ setting.field.key style := fun hmem =>
    (Field.isInner_of_mem_key _ hmem).2 rfl
  have hkey : Text.trim (setting.field.key style) = setting.field.key style :=
    trim_of_inner fun c hc => (Field.isInner_of_mem_key c hc).1
  constructor
  · rw [Names, entry, keyOf_append_cons hequals, hkey, Field.underscored_key]
  · rw [Field.read_eq_ok_iff, entry, valueOf_append_cons hequals, denoted?_word hsetting]

/-- An entry does not end early. -/
theorem comma_notMem_entry (hsetting : setting.Writable) : ',' ∉ setting.entry style := by
  have hinner {text : List Char} (htext : ∀ c ∈ text, isInner c = true) : ',' ∉ text := fun hmem =>
    (isInner_eq_true_iff.mp (htext _ hmem)).2 rfl
  have hkey := hinner fun c (hc : c ∈ setting.field.key style) => (Field.isInner_of_mem_key c hc).1
  simp [entry, hkey, hinner (isInner_of_mem_word hsetting)]

/-- An entry is visible. -/
theorem isVisible_entry (setting : Setting) (style : KeyStyle) :
    isVisible (setting.entry style) = true := by
  rw [isVisible_eq_true_iff]
  intro hblank
  exact hblank.notMem (by decide) (show '=' ∈ setting.entry style by simp [entry])

end Setting

namespace Options

/-- The setting of a field is for that field. -/
@[simp] theorem field_get (options : Options) (field : Field) :
    (options.get field).field = field := by
  cases field <;> rfl

/-- Options with a readable name and code have settings that can be read from their words. -/
theorem writable_get {options : Options}
    (hname : Text.isIdentifier options.sentinelName.toList = true)
    (hcode : (Nat.toDigits 10 options.sentinelCode.natAbs).length ≤ Text.digitLimit)
    (field : Field) : (options.get field).Writable := by
  cases field with
  | flag which => trivial
  | jsonMethods => trivial
  | sentinelName => exact hname
  | sentinelCode => exact hcode

/-- The settings of all fields make the options that they were taken from. -/
theorem setAll_get (options base : Options) {order : List Field} (horder : ∀ field, field ∈ order) :
    base.setAll (order.map options.get) = options := by
  apply ext_get
  intro field
  rw [get_setAll]
  have hown : ∀ setting ∈ (order.map options.get).filter (·.field = field),
      setting = options.get field := by
    intro setting hsetting
    rw [List.mem_filter, List.mem_map] at hsetting
    obtain ⟨⟨other, _, rfl⟩, hfield⟩ := hsetting
    rw [decide_eq_true_eq, field_get] at hfield
    rw [hfield]
  cases hlast : ((order.map options.get).filter (·.field = field)).getLast? with
  | none =>
    have hmem : options.get field ∈ (order.map options.get).filter (·.field = field) :=
      List.mem_filter.mpr ⟨List.mem_map_of_mem (horder field), by simp⟩
    rw [List.getLast?_eq_none_iff.mp hlast] at hmem
    cases hmem
  | some setting => exact hown setting (List.mem_of_getLast? hlast)

/-- An option string with one entry for each field, in any order and with either key for each, makes
the options that its values were taken from, whatever options it extends, if the name of the
sentinel is an identifier and its code is not too long. -/
theorem parse_spelled (options base : Options)
    (hname : Text.isIdentifier options.sentinelName.toList = true)
    (hcode : (Nat.toDigits 10 options.sentinelCode.natAbs).length ≤ 4300)
    (order : List Field) (horder : order.Perm Field.all) (style : Field → KeyStyle) :
    (parse (some (optionString (options.spelled order style))) base).outcome = .ok options := by
  have hwritable := writable_get hname hcode
  have hcomma : ∀ entry ∈ options.spelled order style, ',' ∉ entry :=
    List.forall_mem_map.mpr fun field _ => Setting.comma_notMem_entry (hwritable field)
  have hvisible : (options.spelled order style).filter isVisible = options.spelled order style :=
    List.filter_eq_self.mpr (List.forall_mem_map.mpr fun _ _ => Setting.isVisible_entry _ _)
  have hgives : List.Forall₂ Gives ((options.spelled order style).filter isVisible)
      (order.map options.get) := by
    rw [hvisible, spelled, List.forall₂_map_left_iff, List.forall₂_map_right_iff, List.forall₂_same]
    exact fun field _ => Setting.gives_entry (hwritable field)
  have hall : ∀ field, field ∈ order := fun field => horder.mem_iff.mpr field.mem_all
  rw [parse_of_gives hcomma hgives, setAll_get options base hall]

/-- Entries from the last field to the first, with keys of both kinds, a negative code and a name
that is not spelled in the letters of the keys, over options that say otherwise. -/
theorem parse_spelled_backwards :
    (parse (some ("comments=false,unrecognizedEnumValue=-70000000000," ++
        "unrecognized_enum_name=Größe,unrecognizedEnum=true,outputEncodeMethods=true," ++
        "useNumericEnumForJson=false,outputJsonMethods=from-only,removeEnumPrefix=false," ++
        "stringEnums=true,constEnums=false,enumsAsLiterals=false,nestedEnumsAsNamespaces=false"))
      { constEnums := true, jsonMethods := .never, sentinelName := "OTHER" }).outcome =
      .ok { comments := false, sentinelCode := -70000000000, sentinelName := "Größe",
            jsonMethods := .fromOnly, stringEnums := true } := by
  have hread := parse_spelled
    { comments := false, sentinelCode := -70000000000, sentinelName := "Größe",
      jsonMethods := .fromOnly, stringEnums := true }
    { constEnums := true, jsonMethods := .never, sentinelName := "OTHER" }
    (by decide +kernel) (by decide +kernel) Field.all.reverse (List.reverse_perm _)
    (fun field => if field = .sentinelName then .snake else .camel)
  refine (congrArg (fun text => (parse (some text) _).outcome) ?_).trans hread
  decide +kernel

end Options

end EnumBindings
