import EnumBindings.Binding.Basic
import EnumBindings.Comment.Block
import EnumBindings.Script.Declaration

/-!
# The declaration of a binding

All values are declared in the order of the schema, those with a common code included. The
sentinel comes last unless a value takes its part.
-/

namespace EnumBindings.Binding

/-- The value that a member holds: its wire name or its code. -/
def heldValue (options : Options) (wireName : String) (code : Int) : Script.Expression :=
  if options.stringEnums then .text wireName else .number code

/-- The lines of a comment, unless comments are left out. -/
def commentLines (options : Options) (comment : Option String) (deprecated : Bool)
    (lead : String) : List String :=
  if options.comments then Comment.block comment deprecated lead else []

/-- The declaration of a member. Its comment begins with its name. -/
def declareMember (options : Options) (member : Member) : Script.DeclaredMember where
  comment :=
    commentLines options member.value.comment member.value.deprecated (member.name ++ " - ")
  name := member.name
  value := heldValue options member.wireName member.code

/-- The declaration of the sentinel. -/
def declareSentinel (options : Options) : Script.DeclaredMember where
  comment := []
  name := options.sentinelName
  value := heldValue options options.sentinelName options.sentinelCode

/-- The declared members. -/
def declaredMembers (binding : Binding) : List Script.DeclaredMember :=
  binding.members.map (declareMember binding.options) ++
    if binding.sentinel.isAdded binding.options then [declareSentinel binding.options] else []

/-- The declaration of the enumeration. -/
def declaration (binding : Binding) : Script.Declaration where
  comment := commentLines binding.options binding.enum.comment binding.enum.deprecated ""
  representation := binding.representation
  scope := binding.scope.map (·.enclosing)
  name := binding.declaredName
  members := binding.declaredMembers

end EnumBindings.Binding
