import EnumBindings.Script.Representation

/-!
# Parts of a declaration

The parts of a declaration may be asked for one after another, in any order. Their code
depends on the representation, so none has code before a representation is chosen.
-/

namespace EnumBindings.Script

/-- A part of a declaration, as it is asked for. -/
inductive Part where
  | scopeOpening (scope : String)
  | declarationOpening (name : String)
  | memberLine (name valueCode : String)
  | closing (name : String) (members : List String)
  deriving DecidableEq, Repr

/-- The code of a part. -/
inductive PartCode where
  | line (text : String)
  /-- A closing may take several lines. -/
  | lines (texts : List String)
  deriving DecidableEq, Repr

/-- The code of a part in a representation. -/
def Representation.partCode (representation : Representation) : Part → PartCode
  | .scopeOpening scope => .line (representation.scopeOpening scope)
  | .declarationOpening name => .line (representation.declarationOpening name)
  | .memberLine name valueCode => .line (representation.memberLine name valueCode)
  | .closing name members => .lines (representation.closing name members)

/-- The code of parts in turn, if all of them have code. It is the parts that need a
representation: where none is asked for, none has to be chosen. -/
def partCodes? (chosen : Option Representation) (parts : List Part) : Option (List PartCode) :=
  parts.mapM fun part => chosen.map (·.partCode part)

/-- In a chosen representation every part has code. -/
theorem partCodes?_some (representation : Representation) (parts : List Part) :
    partCodes? (some representation) parts = some (parts.map representation.partCode) := by
  induction parts with
  | nil => rfl
  | cons part parts ih =>
    unfold partCodes? at ih ⊢
    simp only [Option.map_some] at ih ⊢
    simp [List.mapM_cons, ih]

end EnumBindings.Script
