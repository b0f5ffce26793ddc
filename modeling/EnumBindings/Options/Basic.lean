/-!
# Generation options

What the generated bindings look like and which conversion functions they have.
-/

namespace EnumBindings

/-- Which of the two JSON conversions are generated. -/
inductive JsonMethods where
  | always
  | never
  | fromOnly
  | toOnly
  deriving DecidableEq, Repr

/-- The options of a run. -/
structure Options where
  /-- A name `Outer_Inner` is declared as `Inner` within a namespace `Outer`. -/
  nestedEnumsAsNamespaces : Bool := false
  /-- An enumeration is a constant object with a type of its values. -/
  enumsAsLiterals : Bool := false
  /-- An enumeration is erased by the compiler of the bindings. -/
  constEnums : Bool := false
  /-- Members hold wire names, not numbers. -/
  stringEnums : Bool := false
  /-- The name of the enumeration is taken off the names of its members. -/
  removeEnumPrefix : Bool := false
  jsonMethods : JsonMethods := .always
  /-- Members are encoded as numbers in JSON. -/
  numericJson : Bool := false
  /-- String enumerations get a conversion to numbers. -/
  encodeMethods : Bool := true
  /-- Unknown input is mapped to a sentinel member. -/
  sentinel : Bool := true
  sentinelName : String := "UNRECOGNIZED"
  sentinelCode : Int := -1
  /-- Comments of the schema are kept. -/
  comments : Bool := true
  deriving DecidableEq, Repr

/-- Options that are on or off. -/
inductive Flag where
  | nestedEnumsAsNamespaces
  | enumsAsLiterals
  | constEnums
  | stringEnums
  | removeEnumPrefix
  | numericJson
  | encodeMethods
  | sentinel
  | comments
  deriving DecidableEq, Repr

/-- Everything that can be set. -/
inductive Field where
  | flag (flag : Flag)
  | jsonMethods
  | sentinelName
  | sentinelCode
  deriving DecidableEq, Repr

/-- A value for one field. -/
inductive Setting where
  | flag (flag : Flag) (on : Bool)
  | jsonMethods (methods : JsonMethods)
  | sentinelName (name : String)
  | sentinelCode (code : Int)
  deriving DecidableEq, Repr

/-- The field that a setting is for. -/
def Setting.field : Setting → Field
  | .flag which _ => .flag which
  | .jsonMethods _ => .jsonMethods
  | .sentinelName _ => .sentinelName
  | .sentinelCode _ => .sentinelCode

namespace Options

/-- Whether a flag is on. -/
def isOn (options : Options) : Flag → Bool
  | .nestedEnumsAsNamespaces => options.nestedEnumsAsNamespaces
  | .enumsAsLiterals => options.enumsAsLiterals
  | .constEnums => options.constEnums
  | .stringEnums => options.stringEnums
  | .removeEnumPrefix => options.removeEnumPrefix
  | .numericJson => options.numericJson
  | .encodeMethods => options.encodeMethods
  | .sentinel => options.sentinel
  | .comments => options.comments

/-- The setting that a field has. -/
def get (options : Options) : Field → Setting
  | .flag flag => .flag flag (options.isOn flag)
  | .jsonMethods => .jsonMethods options.jsonMethods
  | .sentinelName => .sentinelName options.sentinelName
  | .sentinelCode => .sentinelCode options.sentinelCode

/-- Turns a flag on or off. -/
def turn (options : Options) (on : Bool) : Flag → Options
  | .nestedEnumsAsNamespaces => { options with nestedEnumsAsNamespaces := on }
  | .enumsAsLiterals => { options with enumsAsLiterals := on }
  | .constEnums => { options with constEnums := on }
  | .stringEnums => { options with stringEnums := on }
  | .removeEnumPrefix => { options with removeEnumPrefix := on }
  | .numericJson => { options with numericJson := on }
  | .encodeMethods => { options with encodeMethods := on }
  | .sentinel => { options with sentinel := on }
  | .comments => { options with comments := on }

/-- Replaces the value of one field. -/
def set (options : Options) : Setting → Options
  | .flag flag on => options.turn on flag
  | .jsonMethods methods => { options with jsonMethods := methods }
  | .sentinelName name => { options with sentinelName := name }
  | .sentinelCode code => { options with sentinelCode := code }

/-- A conversion to numbers is generated for string enumerations, which binary encoding
needs. -/
def emitsToNumber (options : Options) : Bool :=
  options.stringEnums && options.encodeMethods

/-- A conversion from JSON is generated on demand, and always beside a conversion to
numbers. -/
def emitsFromJson (options : Options) : Bool :=
  options.jsonMethods == .always || options.jsonMethods == .fromOnly || options.emitsToNumber

/-- A conversion to JSON is generated on demand. -/
def emitsToJson (options : Options) : Bool :=
  options.jsonMethods == .always || options.jsonMethods == .toOnly

/-- Of the flags only the one that is turned changes. -/
theorem isOn_turn (options : Options) (on : Bool) (flag other : Flag) :
    (options.turn on flag).isOn other = if other = flag then on else options.isOn other := by
  cases flag <;> cases other <;> rfl

/-- The field that was set holds the setting. -/
@[simp] theorem get_set_self (options : Options) (setting : Setting) :
    (options.set setting).get setting.field = setting := by
  cases setting with
  | flag flag on => simp [set, get, Setting.field, isOn_turn]
  | jsonMethods methods => rfl
  | sentinelName name => rfl
  | sentinelCode code => rfl

/-- Other fields keep their value. -/
theorem get_set_of_ne (options : Options) {setting : Setting} {field : Field}
    (hfield : field ≠ setting.field) : (options.set setting).get field = options.get field := by
  cases setting with
  | flag flag on =>
    cases field with
    | flag other =>
      have hother : other ≠ flag := fun h => hfield (congrArg Field.flag h)
      simp [set, get, isOn_turn, hother]
    | jsonMethods => cases flag <;> rfl
    | sentinelName => cases flag <;> rfl
    | sentinelCode => cases flag <;> rfl
  | jsonMethods methods =>
    cases field with
    | flag other => cases other <;> rfl
    | jsonMethods => exact absurd rfl hfield
    | sentinelName => rfl
    | sentinelCode => rfl
  | sentinelName name =>
    cases field with
    | flag other => cases other <;> rfl
    | jsonMethods => rfl
    | sentinelName => exact absurd rfl hfield
    | sentinelCode => rfl
  | sentinelCode code =>
    cases field with
    | flag other => cases other <;> rfl
    | jsonMethods => rfl
    | sentinelName => rfl
    | sentinelCode => exact absurd rfl hfield

/-- Options are determined by the settings of their fields. -/
theorem ext_get {left right : Options} (h : ∀ field, left.get field = right.get field) :
    left = right := by
  have hflag (flag : Flag) : left.isOn flag = right.isOn flag :=
    (Setting.flag.inj (h (.flag flag))).2
  obtain ⟨⟩ := left
  obtain ⟨⟩ := right
  rw [mk.injEq]
  exact ⟨hflag .nestedEnumsAsNamespaces, hflag .enumsAsLiterals, hflag .constEnums,
    hflag .stringEnums, hflag .removeEnumPrefix, Setting.jsonMethods.inj (h .jsonMethods),
    hflag .numericJson, hflag .encodeMethods, hflag .sentinel,
    Setting.sentinelName.inj (h .sentinelName), Setting.sentinelCode.inj (h .sentinelCode),
    hflag .comments⟩

end Options

end EnumBindings
