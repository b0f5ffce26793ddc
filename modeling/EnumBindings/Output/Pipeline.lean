import EnumBindings.Options.Parameter
import EnumBindings.Output.Module
import EnumBindings.Schema.Loading

/-!
# From a document to a module

The option string is read first, then the document; then the module is generated. The
first failure ends the run.
-/

namespace EnumBindings

/-- Why a run ends without a module. -/
inductive Failure where
  | options (error : OptionsError)
  | loading (error : LoadError)
  | writing (error : WriteError)
  deriving DecidableEq, Repr

/-- The wording of a failure. -/
def Failure.message : Failure → String
  | .options error => error.message
  | .loading error => error.message
  | .writing error => error.message

/-- Failures of the run itself, which are not reported as faults of what is handed in: something is
too long or too deep for it. -/
def Failure.interrupts : Failure → Bool
  | .loading (.longInteger _) => true
  | .loading (.tooDeep _) => true
  | .writing .longNumber => true
  | _ => false

/-- Generates the module for a document under an option string. -/
def generateFrom (content : Content) (parameter : Option String) (source : String)
    (limits : Limits := {}) : Reported Failure String := do
  let options ← (Options.parse parameter {}).mapError .options
  let enums ← (loadDescriptors content limits).mapError .loading
  (generateModule enums options source limits).mapError .writing

end EnumBindings
