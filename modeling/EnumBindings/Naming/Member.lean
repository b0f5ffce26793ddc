import EnumBindings.Options.Basic
import EnumBindings.Schema.Basic
import EnumBindings.Text.Underscored

/-!
# Names of members

The values of an enumeration commonly repeat its name in capitals. On demand that start is
taken off the names of the members; wire names are never touched.
-/

namespace EnumBindings

/-- Takes a given start off a text, once, if the text has it. -/
def Text.withoutStart (start text : List Char) : List Char :=
  if start.isPrefixOf text then text.drop start.length else text

/-- A name whose first character is in lower case. -/
def uncapitalize (name : String) : String :=
  match name.toList with
  | [] => name
  | first :: rest => String.ofList (Text.lowerChar first ++ rest)

/-- A name in capitals with an underscore between its words. -/
def screamingName (name : String) : String :=
  String.ofList (Text.screaming name.toList)

/-- The start that the names of the values commonly share. -/
def EnumDescriptor.sharedStart (enum : EnumDescriptor) : String :=
  screamingName enum.name ++ "_"

/-- The name of the member for a value. Names that become equal are not told apart. -/
def memberName (options : Options) (enum : EnumDescriptor) (value : EnumValue) : String :=
  if options.removeEnumPrefix then
    String.ofList (Text.withoutStart enum.sharedStart.toList value.name.toList)
  else value.name

/-- A value with the name of its member. Its wire name is the name in the schema. -/
structure Member where
  name : String
  value : EnumValue
  deriving DecidableEq, Repr

/-- The name of a member on the wire. -/
def Member.wireName (member : Member) : String :=
  member.value.name

/-- The code of a member. -/
def Member.code (member : Member) : Int :=
  member.value.number

/-- The members of an enumeration in the order of the schema. -/
def members (options : Options) (enum : EnumDescriptor) : List Member :=
  enum.values.map fun value => ⟨memberName options enum value, value⟩

end EnumBindings
