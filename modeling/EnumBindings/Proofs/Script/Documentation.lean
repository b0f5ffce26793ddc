import EnumBindings.Proofs.Comment.Removal

/-!
# Documentation of declarations

Only a declaration is documented, as a whole and member by member. Its other lines begin like code,
and so do all lines of a conversion. Dropping the documentation blocks from the lines of a
declaration leaves the lines of the same declaration without comments.
-/

namespace EnumBindings.Script

open Comment

/-- A declaration without the comments on it and on its members. -/
def Declaration.withoutComments (declaration : Declaration) : Declaration :=
  { declaration with
    comment := []
    members := declaration.members.map fun member => { member with comment := [] } }

/-- No block is opened by a line whose start begins with another character than a slash. -/
theorem opensBlock_of_append {line start rest : String} {c : Char} (hline : line = start ++ rest)
    (hstart : start.toList.head? = some c) (hc : c ≠ ' ' ∧ c ≠ '/') : opensBlock line = false := by
  have hhead : line.toList.head? = some c := by
    rw [hline, String.toList_append, List.head?_append, hstart, Option.some_or]
  apply opensBlock_of_head?
  rw [unindented_of_head? (by rw [hhead]; simpa using hc.1), hhead]
  simpa using hc.2

/-- No block is opened by the line of a label. -/
theorem Label.opensBlock_line (label : Label) : opensBlock label.line = false := by
  cases label with
  | value expression => exact opensBlock_of_append (String.append_assoc ..) rfl (by decide)
  | otherwise => exact opensBlock_of_head? (by decide)

/-- No block is opened by the line of a statement. -/
theorem Statement.opensBlock_line (statement : Statement) :
    opensBlock (indentUnit ++ statement.line) = false := by
  have hindent : indentUnit ++ statement.line = indentLine 1 statement.line := by
    cases statement <;> rfl
  rw [hindent, opensBlock_indentLine]
  cases statement with
  | give expression => exact opensBlock_of_append (String.append_assoc ..) rfl (by decide)
  | refuse enumName =>
    unfold Statement.line
    simp only [String.append_assoc]
    exact opensBlock_of_append rfl rfl (by decide)

/-- No block is opened within a conversion. -/
theorem Conversion.opensBlock_of_mem_lines {conversion : Conversion} :
    ∀ line ∈ conversion.lines, opensBlock line = false := by
  have hopening : opensBlock conversion.opening = false := by
    unfold Conversion.opening
    simp only [String.append_assoc]
    exact opensBlock_of_append rfl rfl (by decide)
  intro line hline
  simp only [Conversion.lines, Script.indent, List.mem_append, List.mem_cons, List.not_mem_nil,
    or_false, List.mem_map, List.mem_flatMap, Arm.lines] at hline
  rcases hline with ((rfl | rfl) | ⟨inner, ⟨arm, _, hinner⟩, rfl⟩) | rfl | rfl
  · exact hopening
  · decide
  · rw [opensBlock_indentLine]
    rcases hinner with ⟨label, _, rfl⟩ | rfl
    · exact label.opensBlock_line
    · exact arm.statement.opensBlock_line
  · decide
  · decide

namespace Representation

theorem opensBlock_scopeOpening (representation : Representation) (scope : String) :
    opensBlock (representation.scopeOpening scope) = false := by
  cases representation with
  | native erased => exact opensBlock_of_append (String.append_assoc ..) rfl (by decide)
  | literal => exact opensBlock_of_append (String.append_assoc ..) rfl (by decide)

theorem opensBlock_declarationOpening (representation : Representation) (name : String) :
    opensBlock (representation.declarationOpening name) = false := by
  match representation with
  | .native true => exact opensBlock_of_append (String.append_assoc ..) rfl (by decide)
  | .native false => exact opensBlock_of_append (String.append_assoc ..) rfl (by decide)
  | .literal => exact opensBlock_of_append (String.append_assoc ..) rfl (by decide)

theorem opensBlock_memberLine (representation : Representation) {name : String}
    (hname : Text.isIdentifier name.toList = true) (valueCode : String) :
    opensBlock (representation.memberLine name valueCode) = false := by
  obtain ⟨c, hc, hhead⟩ := head?_memberLine representation hname valueCode
  apply opensBlock_of_head?
  rw [unindented_memberLine representation hname, hhead]
  rintro hslash
  rw [Option.some.inj hslash] at hc
  exact absurd hc (by decide)

theorem opensBlock_aliasLine (name member : String) :
    opensBlock (aliasLine name member) = false := by
  unfold aliasLine
  simp only [String.append_assoc]
  exact opensBlock_of_append rfl rfl (by decide)

theorem opensBlock_of_mem_closing {representation : Representation} {name : String}
    {members : List String} :
    ∀ line ∈ representation.closing name members, opensBlock line = false := by
  intro line hline
  cases representation with
  | native erased =>
    rw [closing, List.mem_singleton] at hline
    rw [hline]
    decide
  | literal =>
    rw [closing, List.mem_append, List.mem_append, List.mem_singleton] at hline
    rcases hline with (hline | hline) | rfl
    · simp only [List.mem_cons, List.not_mem_nil, or_false] at hline
      rcases hline with rfl | rfl | rfl | rfl | rfl
      · decide
      · decide
      · simp only [String.append_assoc]
        exact opensBlock_of_append rfl rfl (by decide)
      · decide
      · exact opensBlock_of_append (String.append_assoc ..) rfl (by decide)
    · obtain ⟨inner, hinner, rfl⟩ := List.mem_map.mp hline
      obtain ⟨member, _, rfl⟩ := List.mem_map.mp hinner
      rw [opensBlock_indentLine]
      exact opensBlock_aliasLine name member
    · decide

end Representation

namespace Declaration

variable {declaration : Declaration}

/-- Within its scope, a declaration documents itself without comments. -/
theorem documents_innerLines
    (hmembers : ∀ member ∈ declaration.members, Documents member.comment [])
    (hnames : ∀ member ∈ declaration.members, Text.isIdentifier member.name.toList = true) :
    Documents declaration.innerLines declaration.withoutComments.innerLines := by
  have hopening : ∀ line ∈ [declaration.representation.declarationOpening declaration.name],
      opensBlock line = false := by
    intro line hline
    rw [List.mem_singleton.mp hline]
    exact Representation.opensBlock_declarationOpening _ _
  have hbody : Documents (declaration.members.flatMap (·.lines declaration.representation))
      (declaration.members.flatMap fun member =>
        [declaration.representation.memberLine member.name member.value.code]) := by
    apply Documents.flatMap
    intro member hmember
    refine (hmembers member hmember).append (Documents.of_plain ?_)
    intro line hline
    rw [List.mem_singleton.mp hline]
    exact Representation.opensBlock_memberLine _ (hnames member hmember) _
  have hlines : declaration.withoutComments.innerLines =
      [declaration.representation.declarationOpening declaration.name] ++
        indent 1 (declaration.members.flatMap fun member =>
          [declaration.representation.memberLine member.name member.value.code]) ++
        declaration.representation.closing declaration.name
          (declaration.members.map (·.name)) := by
    simp [innerLines, withoutComments, DeclaredMember.lines, List.flatMap_map, Function.comp_def]
  have hinner : declaration.innerLines =
      [declaration.representation.declarationOpening declaration.name] ++
        indent 1 (declaration.members.flatMap (·.lines declaration.representation)) ++
        declaration.representation.closing declaration.name
          (declaration.members.map (·.name)) := rfl
  rw [hlines, hinner]
  exact ((Documents.of_plain hopening).append (hbody.indent 1)).append
    (Documents.of_plain Representation.opensBlock_of_mem_closing)

/-- Without its documentation blocks a declaration is itself without comments. -/
theorem documents_lines (hcomment : Documents declaration.comment [])
    (hmembers : ∀ member ∈ declaration.members, Documents member.comment [])
    (hnames : ∀ member ∈ declaration.members, Text.isIdentifier member.name.toList = true) :
    Documents declaration.lines declaration.withoutComments.lines := by
  have hinner := documents_innerLines hmembers hnames
  have hsame : declaration.withoutComments.scope = declaration.scope := rfl
  cases hscope : declaration.scope with
  | none =>
    rw [lines, lines, hsame, hscope]
    exact hcomment.append hinner
  | some scope =>
    have hopening : ∀ line ∈ [declaration.representation.scopeOpening scope],
        opensBlock line = false := by
      intro line hline
      rw [List.mem_singleton.mp hline]
      exact Representation.opensBlock_scopeOpening _ _
    have hclosing : ∀ line ∈ ["\x7d"], opensBlock line = false := by decide
    rw [lines, lines, hsame, hscope]
    exact hcomment.append (((Documents.of_plain hopening).append (hinner.indent 1)).append
      (Documents.of_plain hclosing))

end Declaration

end EnumBindings.Script
