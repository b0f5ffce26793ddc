import EnumBindings.Proofs.Script.LineReading
import EnumBindings.Proofs.Text.Values
import EnumBindings.Script.Declaration
import EnumBindings.Script.Switch

/-!
# Lines without breaks

Generated code is made line by line and written as one text. The text can be cut into the same
lines again where no line has a break in it. The lines of a declaration or a conversion have none
if the names in them have none.
-/

namespace EnumBindings.Script

/-- A text of a single line. -/
def Unbroken (line : String) : Prop :=
  '\n' ∉ line.toList

instance (line : String) : Decidable (Unbroken line) :=
  inferInstanceAs (Decidable ('\n' ∉ line.toList))

@[simp] theorem unbroken_append {left right : String} :
    Unbroken (left ++ right) ↔ Unbroken left ∧ Unbroken right := by
  simp [Unbroken, not_or]

@[simp] theorem unbroken_ofList {text : List Char} :
    Unbroken (String.ofList text) ↔ '\n' ∉ text := by
  simp [Unbroken]

/-- Indentation breaks no line. -/
theorem unbroken_indentLine {level : Int} {line : String} (hline : Unbroken line) :
    Unbroken (indentLine level line) := by
  have hindentation : Unbroken (indentation level) := fun hbreak =>
    absurd (eq_space_of_mem_indentation hbreak) (by decide)
  unfold indentLine
  split
  · exact hline
  · exact unbroken_append.mpr ⟨hindentation, hline⟩

theorem unbroken_of_mem_indent {level : Int} {lines : List String}
    (hlines : ∀ line ∈ lines, Unbroken line) : ∀ line ∈ indent level lines, Unbroken line := by
  intro line hline
  obtain ⟨inner, hinner, rfl⟩ := List.mem_map.mp hline
  exact unbroken_indentLine (hlines inner hinner)

namespace Expression

/-- A line feed is neither a digit nor a minus. -/
theorem unbroken_number (value : Int) : Unbroken (number value).code := fun hbreak =>
  absurd (Text.eq_minus_or_isDigit_of_mem_toString hbreak) (by decide)

theorem unbroken_text {content : String} (hcontent : Unbroken content) :
    Unbroken (text content).code :=
  unbroken_append.mpr ⟨unbroken_append.mpr ⟨by decide, hcontent⟩, by decide⟩

theorem unbroken_member {reference name : String} (hreference : Unbroken reference)
    (hname : Unbroken name) : Unbroken (member reference name).code :=
  unbroken_append.mpr ⟨unbroken_append.mpr ⟨hreference, by decide⟩, hname⟩

end Expression

/-- A label without breaks. -/
def Label.Unbroken : Label → Prop
  | .value expression => Script.Unbroken expression.code
  | .otherwise => True

/-- An arm without breaks in what it is made of. -/
structure Arm.Unbroken (arm : Arm) : Prop where
  labels : ∀ label ∈ arm.labels, label.Unbroken
  given : ∀ expression, arm.statement = .give expression → Script.Unbroken expression.code
  refused : ∀ enumName, arm.statement = .refuse enumName → Script.Unbroken enumName

/-- The line of a label. -/
theorem Label.Unbroken.line {label : Label} (hlabel : label.Unbroken) :
    Script.Unbroken label.line := by
  cases label with
  | value expression =>
    exact unbroken_append.mpr ⟨unbroken_append.mpr ⟨by decide, hlabel⟩, by decide⟩
  | otherwise =>
    show Script.Unbroken "default:"
    decide

/-- The line of the statement of an arm. -/
theorem Arm.Unbroken.statement_line {arm : Arm} (harm : arm.Unbroken) :
    Script.Unbroken arm.statement.line := by
  cases hcase : arm.statement with
  | give expression =>
    have hexpression := harm.given expression hcase
    exact unbroken_append.mpr ⟨unbroken_append.mpr ⟨by decide, hexpression⟩, by decide⟩
  | refuse enumName =>
    have hname := harm.refused enumName hcase
    unfold Statement.line
    simp only [unbroken_append, hname]
    decide

/-- The lines of an arm. -/
theorem Arm.Unbroken.lines {arm : Arm} (harm : arm.Unbroken) :
    ∀ line ∈ arm.lines, Script.Unbroken line := by
  intro line hline
  rcases List.mem_append.mp hline with hline | hline
  · obtain ⟨label, hlabel, rfl⟩ := List.mem_map.mp hline
    exact (harm.labels label hlabel).line
  · rw [List.mem_singleton.mp hline]
    exact unbroken_append.mpr ⟨by decide, harm.statement_line⟩

/-- The lines of a conversion. -/
theorem Conversion.unbroken_of_mem_lines {conversion : Conversion}
    (hname : Unbroken conversion.name) (hparameter : Unbroken conversion.parameterType)
    (hresult : Unbroken conversion.resultType) (harms : ∀ arm ∈ conversion.arms, arm.Unbroken) :
    ∀ line ∈ conversion.lines, Unbroken line := by
  have hopening : Unbroken conversion.opening := by
    unfold Conversion.opening
    simp only [unbroken_append, hname, hparameter, hresult]
    decide
  have hbody : ∀ line ∈ indent 2 (conversion.arms.flatMap Arm.lines), Unbroken line := by
    apply unbroken_of_mem_indent
    intro line hline
    obtain ⟨arm, harm, hline⟩ := List.mem_flatMap.mp hline
    exact (harms arm harm).lines line hline
  intro line hline
  simp only [Conversion.lines, List.mem_append, List.mem_cons, List.not_mem_nil, or_false] at hline
  rcases hline with ((rfl | rfl) | hline) | rfl | rfl
  · exact hopening
  · decide
  · exact hbody line hline
  · decide
  · decide

/-- A declared member without breaks in what it is made of. -/
structure DeclaredMember.Unbroken (member : DeclaredMember) : Prop where
  comment : ∀ line ∈ member.comment, Script.Unbroken line
  name : Script.Unbroken member.name
  value : Script.Unbroken member.value.code

namespace Representation

theorem unbroken_scopeOpening (representation : Representation) {scope : String}
    (hscope : Unbroken scope) : Unbroken (representation.scopeOpening scope) := by
  cases representation <;>
    exact unbroken_append.mpr ⟨unbroken_append.mpr ⟨by decide, hscope⟩, by decide⟩

theorem unbroken_declarationOpening (representation : Representation) {name : String}
    (hname : Unbroken name) : Unbroken (representation.declarationOpening name) := by
  match representation with
  | .native true | .native false | .literal =>
    exact unbroken_append.mpr ⟨unbroken_append.mpr ⟨by decide, hname⟩, by decide⟩

theorem unbroken_memberLine (representation : Representation) {name valueCode : String}
    (hname : Unbroken name) (hvalue : Unbroken valueCode) :
    Unbroken (representation.memberLine name valueCode) := by
  cases representation <;>
    exact unbroken_append.mpr
      ⟨unbroken_append.mpr ⟨unbroken_append.mpr ⟨hname, by decide⟩, hvalue⟩, by decide⟩

theorem unbroken_aliasLine {name member : String} (hname : Unbroken name)
    (hmember : Unbroken member) : Unbroken (aliasLine name member) := by
  unfold aliasLine
  simp only [unbroken_append, hmember, hname]
  decide

theorem unbroken_of_mem_closing {representation : Representation} {name : String}
    {members : List String} (hname : Unbroken name)
    (hmembers : ∀ member ∈ members, Unbroken member) :
    ∀ line ∈ representation.closing name members, Unbroken line := by
  intro line hline
  cases representation with
  | native erased =>
    rw [closing, List.mem_singleton] at hline
    rw [hline]
    decide
  | literal =>
    have haliases : ∀ line ∈ indent 1 (members.map (aliasLine name)), Unbroken line := by
      apply unbroken_of_mem_indent
      intro line hline
      obtain ⟨member, hmember, rfl⟩ := List.mem_map.mp hline
      exact unbroken_aliasLine hname (hmembers member hmember)
    simp only [closing, List.mem_append, List.mem_cons, List.not_mem_nil, or_false] at hline
    rcases hline with ((rfl | rfl | rfl | rfl | rfl) | hline) | rfl
    · decide
    · decide
    · simp only [unbroken_append, hname]
      decide
    · decide
    · exact unbroken_append.mpr ⟨unbroken_append.mpr ⟨by decide, hname⟩, by decide⟩
    · exact haliases line hline
    · decide

end Representation

/-- The lines of a declaration. -/
theorem Declaration.unbroken_of_mem_lines {declaration : Declaration}
    (hcomment : ∀ line ∈ declaration.comment, Unbroken line)
    (hscope : ∀ scope ∈ declaration.scope, Unbroken scope) (hname : Unbroken declaration.name)
    (hmembers : ∀ member ∈ declaration.members, member.Unbroken) :
    ∀ line ∈ declaration.lines, Unbroken line := by
  have hbody : ∀ line ∈ declaration.members.flatMap (·.lines declaration.representation),
      Unbroken line := by
    intro line hline
    obtain ⟨member, hmember, hline⟩ := List.mem_flatMap.mp hline
    rcases List.mem_append.mp hline with hline | hline
    · exact (hmembers member hmember).comment line hline
    · rw [List.mem_singleton.mp hline]
      exact Representation.unbroken_memberLine _ (hmembers member hmember).name
        (hmembers member hmember).value
  have hinner : ∀ line ∈ declaration.innerLines, Unbroken line := by
    intro line hline
    rw [innerLines, List.cons_append, List.mem_cons, List.mem_append] at hline
    rcases hline with rfl | hline | hline
    · exact Representation.unbroken_declarationOpening _ hname
    · exact unbroken_of_mem_indent hbody line hline
    · refine Representation.unbroken_of_mem_closing hname ?_ line hline
      intro name hmem
      obtain ⟨member, hmember, rfl⟩ := List.mem_map.mp hmem
      exact (hmembers member hmember).name
  intro line hline
  rcases List.mem_append.mp hline with hline | hline
  · exact hcomment line hline
  · cases hcase : declaration.scope with
    | none =>
      rw [hcase] at hline
      exact hinner line hline
    | some scope =>
      rw [hcase] at hline
      simp only [List.cons_append, List.mem_cons, List.mem_append, List.not_mem_nil,
        or_false] at hline
      rcases hline with rfl | hline | rfl
      · exact Representation.unbroken_scopeOpening _ (hscope scope hcase)
      · exact unbroken_of_mem_indent hinner line hline
      · decide

end EnumBindings.Script
