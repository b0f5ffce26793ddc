import EnumBindings.Output.Writing
import EnumBindings.Report

/-!
# The generated module

A module consists of a heading, the helpers that are needed and the bindings of all
enumerations in the given order, with a blank line between any two parts.
-/

namespace EnumBindings

/-- What is reported about a sentinel whose part a declared value takes. -/
def Binding.sentinelNotices (binding : Binding) : List Notice :=
  match binding.sentinel with
  | .absent => []
  | .taken _ wireName =>
    [⟨.debug, "Value " ++ wireName ++ " occupies sentinel code " ++
      toString binding.options.sentinelCode⟩]

/-- What is reported about a declaration. -/
def Binding.declarationNotices (binding : Binding) : List Notice :=
  binding.sentinelNotices ++
  [⟨.debug, "Declared enum " ++ binding.reference ++ " with " ++
    toString binding.declaredMembers.length ++ " members (sentinel " ++
    (if binding.sentinel.isTaken then "reused" else "absent") ++ ")"⟩]

/-- What is reported about conversions. A helper is mentioned once, where it is first
needed. -/
def conversionNotices (known : Bool) : List Script.Conversion → List Notice
  | [] => []
  | conversion :: rest =>
    (if conversion.refuses && !known then
      [⟨.debug, "Registering helper " ++ Helper.globalObject.name⟩] else []) ++
    ⟨.debug, "Generated " ++ conversion.name⟩ ::
      conversionNotices (known || conversion.refuses) rest

/-- What is reported about a binding, as far as its numbers may be written. -/
def Binding.notices (limits : Limits) (binding : Binding) (known : Bool) : List Notice :=
  if binding.enum.fullName.isEmpty then []
  else
    ⟨.debug, "Generating enum " ++ binding.enum.fullName ++ " (" ++ binding.representation.name ++
      ")"⟩ ::
    if binding.declarationFragment.fits limits then
      binding.declarationNotices ++
        conversionNotices known (binding.conversions.takeWhile (·.fragment.fits limits))
    else if limits.allowsNumber binding.options.sentinelCode then binding.sentinelNotices
    else []

/-- Adds the binding of an enumeration. -/
def Draft.addEnum (options : Options) (draft : Draft) (enum : EnumDescriptor)
    (limits : Limits := {}) : Reported WriteError Draft :=
  let binding : Binding := ⟨enum, options⟩
  let (written, next) := (Writing.enum limits binding).runOn draft
  ⟨binding.notices limits draft.needsGlobalObject, written.map fun _ => next⟩

/-- Adds the bindings of enumerations in order. -/
def Draft.addEnums (options : Options) (draft : Draft) (enums : List EnumDescriptor)
    (limits : Limits := {}) : Reported WriteError Draft :=
  match enums with
  | [] => pure draft
  | enum :: rest => do
    .report .info ("Generating enum: " ++ enum.fullName)
    let draft ← draft.addEnum options enum limits
    draft.addEnums options rest limits

/-- What stands behind the last slash of a file name. -/
def baseName (source : String) : String :=
  match Text.cutAtLast? '/' source.toList with
  | none => source
  | some (_, name) => String.ofList name

/-- The heading of a module made from the named source. -/
def heading (source : String) : String :=
  Script.joinLines [
    "/* eslint-disable */",
    "// Auto-generated by proto2ts from " ++
      (if source.isEmpty then "descriptors" else baseName source),
    "//",
    "// Do not edit by hand: changes will be lost when the file is regenerated."]

/-- The text of a module. -/
def Draft.module (draft : Draft) (source : String) : String :=
  let parts := heading source :: draft.helperCode ++ [draft.body]
  "\n\n".intercalate (parts.filter (!·.isEmpty)) ++ "\n"

/-- Generates the module for enumerations. -/
def generateModule (enums : List EnumDescriptor) (options : Options) (source : String)
    (limits : Limits := {}) : Reported WriteError String := do
  let draft ← Draft.addEnums options {} enums limits
  return draft.module source

end EnumBindings
