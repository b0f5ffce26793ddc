import EnumBindings.Proofs.Script.DeclarationReading
import EnumBindings.Proofs.Script.SwitchReading
import Mathlib.Data.List.Find
import Mathlib.Data.List.Nodup

/-!
# Running generated code

A function of generated code runs as the switch that its lines spell. Labels are compared with
the object in order, by strict equality. An expression for a member stands for the value that
the declaration in the same code gives the member. The default arm applies where no label
matches.
-/

namespace EnumBindings.Script

/-- The first arm with a label for an object, or else the default arm. -/
def selectBranch (value? : String → Option Value) (object : Value) (branches : List Branch) :
    Option Branch :=
  (branches.find? fun branch => branch.labels.any (value? · == some object)).or
    (branches.find? (·.isDefault))

/-- What a call comes to. -/
inductive Result where
  | value (value : Value)
  | thrown
  | undefined
  deriving DecidableEq, Repr

/-- Calls a function on what another call comes to, unless that fails. -/
def Result.bind (result : Result) (next : Value → Result) : Result :=
  match result with
  | .value found => next found
  | .thrown => .thrown
  | .undefined => .undefined

/-- The generated code for an enumeration. -/
structure Program where
  /-- The name that the declaration introduces. -/
  declaredName : String
  /-- The expression by which the functions refer to the enumeration. -/
  reference : String
  lines : List String

namespace Program

/-- The declared members with their values. -/
def members (program : Program) : List (String × Value) :=
  readMembers program.declaredName program.lines

/-- The value that the declaration gives a member. -/
def memberValue? (program : Program) (name : String) : Option Value :=
  (program.members.find? (·.1 == name)).map (·.2)

/-- The spelling of the expression for a member. -/
def memberCode (program : Program) (name : String) : String :=
  (Expression.member program.reference name).code

/-- The value of an expression, which is a literal or stands for a declared member. -/
def value? (program : Program) (code : String) : Option Value :=
  (Value.ofLiteral? code.toList).or
    ((program.members.find? fun member => program.memberCode member.1 == code).map (·.2))

/-- Runs a function on an object. -/
def run (program : Program) (function : String) (object : Value) : Outcome :=
  match selectBranch program.value? object (functionBranches function program.lines) with
  | some branch => branch.outcome
  | none => .ends

/-- Calls a function on an object. -/
def call (program : Program) (function : String) (object : Value) : Result :=
  match program.run function object with
  | .gives code =>
    match program.value? code with
    | some value => .value value
    | none => .undefined
  | .throws => .thrown
  | .ends => .undefined

/-- Whether the code has a function with a name. -/
def defines (program : Program) (function : String) : Bool :=
  program.lines.any (opensFunction function)

end Program

/-- In a list with distinct keys every entry is found by its key. -/
theorem find?_of_nodup_map {α κ : Type} [BEq κ] [LawfulBEq κ] {entries : List α} {key : α → κ}
    (hkeys : (entries.map key).Nodup) {entry : α} (hentry : entry ∈ entries) :
    entries.find? (key · == key entry) = some entry := by
  induction entries with
  | nil => cases hentry
  | cons first rest ih =>
    rw [List.map_cons, List.nodup_cons] at hkeys
    rcases List.mem_cons.mp hentry with rfl | hentry
    · exact List.find?_cons_of_pos (beq_self_eq_true _)
    · have hne : ¬(key first == key entry) = true := by
        intro h
        exact hkeys.1 (eq_of_beq h ▸ List.mem_map_of_mem hentry)
      rw [List.find?_cons_of_neg (by simpa using hne)]
      exact ih hkeys.2 hentry

/-- Where only the last arm is a default, it applies exactly if no label before it matches. It
does not matter whether a label of its own matches. -/
theorem selectBranch_append {value? : String → Option Value} {object : Value}
    {branches : List Branch} {rest : Branch}
    (hbranches : ∀ branch ∈ branches, branch.isDefault = false) (hrest : rest.isDefault = true) :
    selectBranch value? object (branches ++ [rest]) =
      some ((branches.find? fun branch =>
        branch.labels.any (value? · == some object)).getD rest) := by
  have hdefault : branches.find? (·.isDefault) = none := by
    rw [List.find?_eq_none]
    intro branch hbranch
    simp [hbranches branch hbranch]
  have hlast : [rest].find? (·.isDefault) = some rest := List.find?_cons_of_pos hrest
  rw [selectBranch, List.find?_append, List.find?_append, hdefault, Option.none_or, hlast]
  cases branches.find? fun branch => branch.labels.any (value? · == some object) with
  | some branch => rfl
  | none =>
    cases hmatch : rest.labels.any (value? · == some object) with
    | true =>
      rw [List.find?_cons_of_pos (by simpa using hmatch)]
      rfl
    | false =>
      rw [List.find?_cons_of_neg (by simpa using hmatch)]
      rfl

namespace Program

/-- A function with one arm for each of some entries and a default arm behind them comes to the
arm of the first entry that matches, or else to the default. -/
theorem run_eq {program : Program} {function : String} {object : Value} {α : Type}
    {entries : List α} {arm : α → Arm} {rest : Arm} {isMatch : α → Bool}
    (hbranches : functionBranches function program.lines =
      (entries.map arm ++ [rest]).map Arm.branch)
    (hdefault : ∀ entry ∈ entries, (arm entry).branch.isDefault = false)
    (hmatch : ∀ entry ∈ entries,
      (arm entry).branch.labels.any (program.value? · == some object) = isMatch entry)
    (hrest : rest.branch.isDefault = true) :
    program.run function object =
      ((entries.find? isMatch).map fun entry => (arm entry).branch.outcome).getD
        rest.branch.outcome := by
  have hfind : ((entries.map arm).map Arm.branch).find?
      (fun branch => branch.labels.any (program.value? · == some object)) =
        (entries.find? isMatch).map fun entry => (arm entry).branch := by
    rw [List.map_map, List.find?_map]
    exact congrArg (Option.map _) (List.find?_congr hmatch)
  rw [run, hbranches, List.map_append, List.map_singleton, selectBranch_append (by
    simpa using hdefault) hrest, hfind]
  cases entries.find? isMatch <;> rfl

/-- The value of a literal is what it spells, whatever is declared. -/
theorem value?_of_literal {program : Program} {code : String} {value : Value}
    (hcode : Value.ofLiteral? code.toList = some value) : program.value? code = some value := by
  rw [value?, hcode, Option.some_or]

/-- A member has the value that the declaration gives it, if the names of the declared members
are distinct identifiers. -/
theorem value?_memberCode {program : Program} (hnames : (program.members.map (·.1)).Nodup)
    {member : String × Value} (hmember : member ∈ program.members)
    (hname : Text.isIdentifier member.1.toList = true) :
    program.value? (program.memberCode member.1) = some member.2 := by
  have hcodes : (program.members.map fun other => program.memberCode other.1).Nodup := by
    have hinjective : Function.Injective program.memberCode := by
      intro left right h
      simpa [memberCode, Expression.code] using h
    simpa [Function.comp_def] using hnames.map hinjective
  rw [value?, memberCode, ofLiteral?_member hname, Option.none_or]
  exact congrArg (Option.map Prod.snd) (find?_of_nodup_map hcodes hmember)

/-- The value of a declared member is found by its name. -/
theorem memberValue?_eq {program : Program} (hnames : (program.members.map (·.1)).Nodup)
    {member : String × Value} (hmember : member ∈ program.members) :
    program.memberValue? member.1 = some member.2 := by
  rw [memberValue?, find?_of_nodup_map hnames hmember, Option.map_some]

end Program

end EnumBindings.Script
