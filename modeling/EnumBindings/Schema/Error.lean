import EnumBindings.Json.Fault

/-!
# Errors in descriptors

Why a document is no list of enumerations, and where in it the fault lies.
-/

namespace EnumBindings

/-- What is wrong with a document. -/
inductive DescriptorFault where
  | malformedText (fault : JsonFault) (place : Place)
  | notUtf8
  | missingEnums
  | enumNotObject
  | enumWithoutName
  | fullNameNotText
  | missingValues
  | valueNotObject
  | valueWithoutName
  | numberNotInteger
  | commentNotText
  | duplicateName
  /-- A fault described in words. -/
  | other (summary : String)
  deriving DecidableEq, Repr

/-- The wording of a fault. -/
def DescriptorFault.message : DescriptorFault → String
  | .malformedText fault place =>
    "Invalid descriptor JSON: " ++ fault.message ++ ": " ++ place.message
  | .notUtf8 => "Descriptor file is not valid UTF-8"
  | .missingEnums => "Descriptor document needs a top-level 'enums' list"
  | .enumNotObject => "Enum descriptor must be an object"
  | .enumWithoutName => "Enum descriptor is missing a name"
  | .fullNameNotText => "Enum descriptor needs a non-empty string 'fullName'"
  | .missingValues => "Enum descriptor needs a 'values' list"
  | .valueNotObject => "Enum value must be an object"
  | .valueWithoutName => "Enum value is missing a name"
  | .numberNotInteger => "Enum value needs an integer 'number'"
  | .commentNotText => "Comment must be a string"
  | .duplicateName => "Duplicate enum value name"
  | .other summary => summary

/-- A fault with the enumeration and the value that have it, as far as they are known. -/
structure DescriptorError where
  fault : DescriptorFault
  enumName : Option String := none
  valueName : Option String := none
  deriving DecidableEq, Repr

/-- A detail of an error: nothing when the name is unknown or empty. -/
def detail (lead : String) : Option String → String
  | none => ""
  | some name => if name.isEmpty then "" else lead ++ " '" ++ name ++ "'"

/-- The wording of an error. -/
def DescriptorError.message (error : DescriptorError) : String :=
  error.fault.message ++ detail " in enum" error.enumName ++ detail " for value" error.valueName

/-- Why nothing could be loaded: a fault of the document, an integer in its text that is too long
to be read, or a list or an object that stands too deep in it. -/
inductive LoadError where
  | descriptor (error : DescriptorError)
  | longInteger (digits : Nat)
  | tooDeep (container : Container)
  deriving DecidableEq, Repr

/-- The wording of an error. -/
def LoadError.message : LoadError → String
  | .descriptor error => error.message
  | .longInteger digits =>
    "Exceeds the limit (4300 digits) for integer string conversion: value has " ++
      toString digits ++
      " digits; use sys.set_int_max_str_digits() to increase the limit"
  | .tooDeep container =>
    "maximum recursion depth exceeded while decoding a JSON " ++ container.name ++
      " from a unicode string"

end EnumBindings
