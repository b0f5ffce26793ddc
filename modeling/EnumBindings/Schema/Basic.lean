/-!
# Enumerations of a schema

An enumeration with its values, as a schema declares it and after its names have been
resolved.
-/

namespace EnumBindings

/-- A value of an enumeration. Several values may share a number. -/
structure EnumValue where
  /-- The name of the value in the schema and on the wire. -/
  name : String
  number : Int
  deprecated : Bool := false
  comment : Option String := none
  deriving DecidableEq, Repr

/-- An enumeration with its values in the order of the schema. -/
structure EnumDescriptor where
  /-- The name within its scope. -/
  name : String
  /-- The name with those of the enclosing scopes, joined by underscores. -/
  fullName : String
  values : List EnumValue := []
  deprecated : Bool := false
  comment : Option String := none
  deriving DecidableEq, Repr

end EnumBindings
