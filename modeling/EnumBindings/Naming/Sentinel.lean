import EnumBindings.Naming.Member

/-!
# The sentinel

Unknown input is mapped to one member, the sentinel. A declared value with its code takes
that part; otherwise the sentinel is a member of its own.
-/

namespace EnumBindings

/-- Whether a declared value has the code of the sentinel. -/
inductive Sentinel where
  | absent
  /-- The member of the first such value, and its name on the wire. -/
  | taken (member wireName : String)
  deriving DecidableEq, Repr

/-- Looks for a member with the given code. Of several the first counts. -/
def Sentinel.find (code : Int) (members : List Member) : Sentinel :=
  match members.find? (·.code = code) with
  | some member => .taken member.name member.wireName
  | none => .absent

/-- Whether a declared value takes the part of the sentinel. -/
def Sentinel.isTaken : Sentinel → Bool
  | .absent => false
  | .taken _ _ => true

/-- Whether the sentinel has to be added to the declared members. -/
def Sentinel.isAdded (sentinel : Sentinel) (options : Options) : Bool :=
  options.sentinel && !sentinel.isTaken

end EnumBindings
