import EnumBindings.Output.Writing

/-!
# Steps on a draft

A draft may also be written step by step. A step that fails is over, and the next one goes on with
what it has left.
-/

namespace EnumBindings

/-- One step in the writing of a draft. A conversion follows the decision about the
sentinel that it is given. -/
inductive Step where
  | define (symbol : String)
  | append (lines : List String)
  | require (helper : String)
  | enum (binding : Binding)
  | declaration (binding : Binding)
  | fromJson (binding : Binding) (sentinel : Sentinel)
  | toJson (binding : Binding) (sentinel : Sentinel)
  | toNumber (binding : Binding) (sentinel : Sentinel)
  deriving DecidableEq, Repr

/-- What a step answers. -/
inductive StepAnswer where
  | nothing
  /-- The name that was introduced or asked for. -/
  | name (name : String)
  /-- The decision about the sentinel. -/
  | sentinel (sentinel : Sentinel)
  deriving DecidableEq, Repr

/-- Takes a step. -/
def Writing.step (limits : Limits) : Step → Writing StepAnswer
  | .define symbol => do
    define symbol
    return .name symbol
  | .append lines => do
    append lines
    return .nothing
  | .require helper => do
    require helper
    return .name helper
  | .enum binding => do
    enum limits binding
    return .sentinel binding.sentinel
  | .declaration binding => do
    declare limits binding
    return .sentinel binding.sentinel
  | .fromJson binding sentinel => do
    convert limits (binding.fromJson sentinel)
    return .name (binding.fromJson sentinel).name
  | .toJson binding sentinel => do
    convert limits (binding.toJson sentinel)
    return .name (binding.toJson sentinel).name
  | .toNumber binding sentinel => do
    convert limits (binding.toNumber sentinel)
    return .name (binding.toNumber sentinel).name

namespace Draft

/-- The answer or the failure of a step on a draft, and the draft that it leaves. -/
def perform (limits : Limits) (draft : Draft) (step : Step) :
    Except WriteError StepAnswer × Draft :=
  (Writing.step limits step).runOn draft

/-- The draft that a step leaves, whether or not it fails. -/
def afterStep (limits : Limits) (draft : Draft) (step : Step) : Draft :=
  (draft.perform limits step).2

/-- The draft that steps leave. -/
def afterSteps (limits : Limits) (draft : Draft) (steps : List Step) : Draft :=
  steps.foldl (afterStep limits) draft

end Draft

end EnumBindings
