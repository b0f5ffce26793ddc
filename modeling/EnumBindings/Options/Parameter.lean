import EnumBindings.Options.Basic
import EnumBindings.Options.Error
import EnumBindings.Report
import EnumBindings.Text.Blank
import EnumBindings.Text.Identifier
import EnumBindings.Text.Pieces
import EnumBindings.Text.Underscored

/-!
# The option string

Options are given in one string of entries `key=value` with commas between them. A key may
be written in words of capitals and small letters or with underscores, and a key alone
turns a flag on. Every entry is checked; of several entries for one field the last counts.
-/

namespace EnumBindings

/-- The name of a flag. -/
def Flag.name : Flag → String
  | .nestedEnumsAsNamespaces => "nested_enums_as_namespaces"
  | .enumsAsLiterals => "enums_as_literals"
  | .constEnums => "const_enums"
  | .stringEnums => "string_enums"
  | .removeEnumPrefix => "remove_enum_prefix"
  | .numericJson => "use_numeric_enum_for_json"
  | .encodeMethods => "output_encode_methods"
  | .sentinel => "unrecognized_enum"
  | .comments => "comments"

/-- The name of a field. -/
def Field.name : Field → String
  | .flag which => which.name
  | .jsonMethods => "output_json_methods"
  | .sentinelName => "unrecognized_enum_name"
  | .sentinelCode => "unrecognized_enum_value"

/-- All fields. -/
def Field.all : List Field := [
  .flag .nestedEnumsAsNamespaces, .flag .enumsAsLiterals, .flag .constEnums, .flag .stringEnums,
  .flag .removeEnumPrefix, .jsonMethods, .flag .numericJson, .flag .encodeMethods, .flag .sentinel,
  .sentinelName, .sentinelCode, .flag .comments]

/-- The field with a name. -/
def Field.ofName? (name : String) : Option Field :=
  Field.all.find? (·.name = name)

/-- The word for a choice of JSON conversions. -/
def JsonMethods.word : JsonMethods → String
  | .always => "true"
  | .never => "false"
  | .fromOnly => "from-only"
  | .toOnly => "to-only"

/-- A choice of JSON conversions in a notice. -/
def JsonMethods.shown : JsonMethods → String
  | .always => "<JsonMethods.ALWAYS: 'true'>"
  | .never => "<JsonMethods.NEVER: 'false'>"
  | .fromOnly => "<JsonMethods.FROM_ONLY: 'from-only'>"
  | .toOnly => "<JsonMethods.TO_ONLY: 'to-only'>"

/-- The value of a setting in a notice. -/
def Setting.shownValue : Setting → String
  | .flag _ on => if on then "True" else "False"
  | .jsonMethods methods => methods.shown
  | .sentinelName name => showQuoted name
  | .sentinelCode code => toString code

/-- The switch words, whatever their case and the white space around them. -/
def switch? (raw : List Char) : Option Bool :=
  let word := String.ofList (Text.lower (Text.trim raw))
  if word ∈ ["true", "1", "yes"] then some true
  else if word ∈ ["false", "0", "no"] then some false
  else none

/-- A choice of JSON conversions by its word, or by a switch word for all or none. -/
def JsonMethods.ofText? (raw : List Char) : Option JsonMethods :=
  match switch? raw with
  | some true => some .always
  | some false => some .never
  | none =>
    let word := String.ofList (Text.lower (Text.trim raw))
    if word = "from-only" then some .fromOnly
    else if word = "to-only" then some .toOnly
    else none

/-- The value of a field, read from its text. -/
def Field.read (key : String) (raw : List Char) : Field → Except OptionsError Setting
  | .flag which =>
    match switch? raw with
    | some on => .ok (.flag which on)
    | none => .error ⟨.notBoolean, some key, some (String.ofList raw)⟩
  | .jsonMethods =>
    match JsonMethods.ofText? raw with
    | some methods => .ok (.jsonMethods methods)
    | none => .error ⟨.notJsonMethods, some key, some (String.ofList raw)⟩
  | .sentinelCode =>
    match Text.integer? (Text.trim raw) with
    | some code => .ok (.sentinelCode code)
    | none => .error ⟨.notInteger, some key, some (String.ofList raw)⟩
  | .sentinelName =>
    let name := Text.trim raw
    if Text.isIdentifier name then .ok (.sentinelName (String.ofList name))
    else .error ⟨.notIdentifier, some key, some (String.ofList raw)⟩

namespace Setting

/-- Reads one entry. Where there is no equals sign the value is `true`. -/
def ofEntry (entry : List Char) : Except OptionsError Setting :=
  let (spelling, raw?) := Text.cutAtFirst '=' entry
  let key := Text.trim spelling
  match Field.ofName? (String.ofList (Text.underscored key)) with
  | none => .error ⟨.unknownOption, some (String.ofList key), none⟩
  | some field => field.read (String.ofList key) (raw?.getD ['t', 'r', 'u', 'e'])

/-- The entries of an option string, without the blank ones. -/
def entries (parameter : List Char) : List (List Char) :=
  ((Text.pieces ',' parameter).map Text.trim).filter (!·.isEmpty)

/-- Reads the entries one by one and reports each setting. -/
def readEntries : List (List Char) → Reported OptionsError (List Setting)
  | [] => pure []
  | entry :: rest => do
    let setting ← .ofExcept (ofEntry entry)
    .report .debug ("Option " ++ setting.field.name ++ " = " ++ setting.shownValue)
    return setting :: (← readEntries rest)

end Setting

namespace Options

/-- What deserves mention about options and the settings they were made with. -/
def remarks (options : Options) (settings : List Setting) : List Notice :=
  (if options.constEnums && options.enumsAsLiterals then
    [⟨.warning, "constEnums has no effect together with enumsAsLiterals; ignoring it."⟩]
  else []) ++
  (if options.encodeMethods && !options.stringEnums &&
      settings.any (·.field = .flag .encodeMethods) then
    [⟨.debug, "outputEncodeMethods only adds ToNumber for string enums."⟩]
  else [])

/-- Applies settings in order. -/
def setAll (options : Options) (settings : List Setting) : Options :=
  settings.foldl set options

/-- The options that an option string makes of given ones. A blank string changes nothing
and earns no remark. -/
def parse (parameter : Option String) (base : Options) : Reported OptionsError Options :=
  match parameter with
  | none => pure base
  | some parameter =>
    if (Text.trim parameter.toList).isEmpty then pure base
    else do
      let settings ← Setting.readEntries (Setting.entries parameter.toList)
      let options := base.setAll settings
      .reportAll (options.remarks settings)
      return options

end Options

end EnumBindings
