import EnumBindings.Script.Expression
import EnumBindings.Script.Representation

/-!
# Declarations

The declaration of an enumeration with its members and their comments, possibly within a
scope.
-/

namespace EnumBindings.Script

/-- A member with the lines of its comment. -/
structure DeclaredMember where
  comment : List String
  name : String
  value : Expression
  deriving DecidableEq, Repr

/-- A declaration with the lines of its comment. -/
structure Declaration where
  comment : List String
  representation : Representation
  scope : Option String
  name : String
  members : List DeclaredMember
  deriving DecidableEq, Repr

/-- The lines of a member. -/
def DeclaredMember.lines (representation : Representation) (member : DeclaredMember) :
    List String :=
  member.comment ++ [representation.memberLine member.name member.value.code]

namespace Declaration

/-- The lines of a declaration within its scope. -/
def innerLines (declaration : Declaration) : List String :=
  declaration.representation.declarationOpening declaration.name ::
    indent 1 (declaration.members.flatMap (·.lines declaration.representation)) ++
    declaration.representation.closing declaration.name (declaration.members.map (·.name))

/-- The lines of a declaration. -/
def lines (declaration : Declaration) : List String :=
  declaration.comment ++
    match declaration.scope with
    | none => declaration.innerLines
    | some scope =>
      declaration.representation.scopeOpening scope :: indent 1 declaration.innerLines ++ ["\x7d"]

/-- The numbers in a declaration. -/
def numbers (declaration : Declaration) : List Int :=
  declaration.members.flatMap (·.value.numbers)

end Declaration

end EnumBindings.Script
