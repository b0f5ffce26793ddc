import EnumBindings.Binding.Basic
import EnumBindings.Script.Switch

/-!
# The conversions of a binding

From JSON, both the code and the wire name of a value lead to its member. To JSON, a member
leads to its wire name or its code, and to numbers always to its code. What matches nothing
leads to the sentinel, or is refused where there is no sentinel. The decision about the
sentinel is given, so that all conversions follow the same one.
-/

namespace EnumBindings.Binding

open Script

/-- The expression for a member. -/
def memberExpression (binding : Binding) (name : String) : Expression :=
  .member binding.reference name

/-- Everything else is refused. -/
def refusal (binding : Binding) : Arm :=
  ⟨[.otherwise], .refuse binding.enum.fullName⟩

/-- The arm of a member in the conversion from JSON. -/
def fromJsonArm (binding : Binding) (member : Member) : Arm where
  labels := [.value (.number member.code), .value (.text member.wireName)]
  statement := .give (binding.memberExpression member.name)

/-- Where everything else leads in the conversion from JSON. -/
def fromJsonRest (binding : Binding) (sentinel : Sentinel) : Arm :=
  let options := binding.options
  if options.sentinel then
    match sentinel with
    | .absent =>
      ⟨[.value (.number options.sentinelCode), .value (.text options.sentinelName), .otherwise],
        .give (binding.memberExpression options.sentinelName)⟩
    | .taken member _ => ⟨[.otherwise], .give (binding.memberExpression member)⟩
  else binding.refusal

/-- The conversion from JSON. -/
def fromJson (binding : Binding) (sentinel : Sentinel) : Conversion where
  name := binding.functionName "FromJSON"
  parameterType := "any"
  resultType := binding.reference
  arms := binding.members.map binding.fromJsonArm ++ [binding.fromJsonRest sentinel]

/-- What a value is in JSON: its code or its wire name. -/
def jsonValue (options : Options) (wireName : String) (code : Int) : Expression :=
  if options.numericJson then .number code else .text wireName

/-- The arm of a member in the conversion to JSON. -/
def toJsonArm (binding : Binding) (member : Member) : Arm where
  labels := [.value (binding.memberExpression member.name)]
  statement := .give (jsonValue binding.options member.wireName member.code)

/-- Where everything else leads in the conversion to JSON. -/
def toJsonRest (binding : Binding) (sentinel : Sentinel) : Arm :=
  let options := binding.options
  if options.sentinel then
    match sentinel with
    | .absent =>
      ⟨[.value (binding.memberExpression options.sentinelName), .otherwise],
        .give (jsonValue options options.sentinelName options.sentinelCode)⟩
    | .taken _ wireName =>
      ⟨[.otherwise], .give (jsonValue options wireName options.sentinelCode)⟩
  else binding.refusal

/-- The conversion to JSON. -/
def toJson (binding : Binding) (sentinel : Sentinel) : Conversion where
  name := binding.functionName "ToJSON"
  parameterType := binding.reference
  resultType := if binding.options.numericJson then "number" else "string"
  arms := binding.members.map binding.toJsonArm ++ [binding.toJsonRest sentinel]

/-- The arm of a member in the conversion to numbers. -/
def toNumberArm (binding : Binding) (member : Member) : Arm where
  labels := [.value (binding.memberExpression member.name)]
  statement := .give (.number member.code)

/-- Where everything else leads in the conversion to numbers, which refuses nothing. -/
def toNumberRest (binding : Binding) (sentinel : Sentinel) : Arm where
  labels :=
    if sentinel.isAdded binding.options then
      [.value (binding.memberExpression binding.options.sentinelName), .otherwise]
    else [.otherwise]
  statement := .give (.number binding.options.sentinelCode)

/-- The conversion to numbers. -/
def toNumber (binding : Binding) (sentinel : Sentinel) : Conversion where
  name := binding.functionName "ToNumber"
  parameterType := binding.reference
  resultType := "number"
  arms := binding.members.map binding.toNumberArm ++ [binding.toNumberRest sentinel]

/-- The conversions that the options ask for, in order. -/
def conversions (binding : Binding) : List Conversion :=
  let sentinel := binding.sentinel
  (if binding.options.emitsFromJson then [binding.fromJson sentinel] else []) ++
    (if binding.options.emitsToJson then [binding.toJson sentinel] else []) ++
    if binding.options.emitsToNumber then [binding.toNumber sentinel] else []

end EnumBindings.Binding
