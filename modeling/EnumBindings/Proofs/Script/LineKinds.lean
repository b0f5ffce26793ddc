import EnumBindings.Proofs.Script.DeclarationLines

/-!
# Lines that throw and lines that open a constant

A statement that throws shows at the start of its line, and a constant that is not exported shows in
the first and the last character of the line that opens it. A conversion has a line that throws
exactly if it refuses something, and no declaration and no conversion has a line that opens such a
constant.
-/

namespace EnumBindings.Script

/-- A line with a statement that throws. -/
def IsThrow (line : String) : Prop :=
  "throw ".toList <+: unindented line

/-- A text that may open a constant which is not exported. -/
def OpensConstant (text : List Char) : Prop :=
  text.head? = some 'c' ∧ text.getLast? = some '\x7b'

/-- Indentation makes no difference to what a line throws. -/
@[simp] theorem isThrow_indentLine {level : Int} {line : String} :
    IsThrow (indentLine level line) ↔ IsThrow line := by
  rw [IsThrow, unindented_indentLine, IsThrow]

theorem not_isThrow_of_head? {line : String} (hline : (unindented line).head? ≠ some 't') :
    ¬ IsThrow line := by
  rintro ⟨rest, hrest⟩
  exact hline (by rw [← hrest]; rfl)

theorem not_opensConstant_of_head? {text : List Char} (htext : text.head? ≠ some 'c') :
    ¬ OpensConstant text :=
  fun hopens => htext hopens.1

/-- A line that ends in another way opens no constant, however it begins. -/
theorem not_opensConstant_of_getLast? {line : String} (hline : line.toList.getLast? ≠ some '\x7b') :
    ¬ OpensConstant (unindented line) := by
  rintro ⟨_, hlast⟩
  obtain ⟨start, hstart⟩ := List.dropWhile_suffix (l := line.toList) (· == ' ')
  apply hline
  rw [← hstart, List.getLast?_append]
  show (unindented line).getLast?.or _ = _
  rw [hlast, Option.some_or]

theorem not_opensConstant_of_isRemark {line : String} (hline : IsRemark line) :
    ¬ OpensConstant (unindented line) := by
  apply not_opensConstant_of_head?
  rcases hline with h | h <;> rw [h] <;> decide

/-! ## Conversions -/

/-- Labels throw nothing. -/
theorem Label.not_isThrow_line (label : Label) : ¬ IsThrow label.line := by
  apply not_isThrow_of_head?
  cases label with
  | value expression => simp [Label.line, unindented]
  | otherwise => decide

/-- A statement throws where it refuses its input. -/
theorem Statement.isThrow_line_iff (statement : Statement) :
    IsThrow (indentUnit ++ statement.line) ↔ statement.refuses = true := by
  have hindent : indentUnit ++ statement.line = indentLine 1 statement.line := by
    cases statement <;> rfl
  rw [hindent, isThrow_indentLine]
  cases statement with
  | give expression =>
    refine iff_of_false (not_isThrow_of_head? ?_) Bool.false_ne_true
    simp [Statement.line, unindented]
  | refuse enumName =>
    refine iff_of_true ?_ rfl
    rw [IsThrow, unindented_of_head? (by simp [Statement.line])]
    simp [Statement.line]

namespace Conversion

/-- The lines of a conversion, kind by kind. -/
theorem mem_lines_iff {conversion : Conversion} {line : String} :
    line ∈ conversion.lines ↔ line = conversion.opening ∨
      line = indentUnit ++ "switch (object) \x7b" ∨
      (∃ inner, (∃ arm ∈ conversion.arms, (∃ label ∈ arm.labels, label.line = inner) ∨
        inner = indentUnit ++ arm.statement.line) ∧ indentLine 2 inner = line) ∨
      line = indentUnit ++ "\x7d" ∨ line = "\x7d" := by
  simp only [lines, indent, Arm.lines, List.mem_append, List.mem_map, List.mem_flatMap,
    List.mem_cons, List.not_mem_nil, or_false, or_assoc]

/-- The line that opens a conversion is an export. -/
theorem head?_opening (conversion : Conversion) :
    (unindented conversion.opening).head? = some 'e' := by
  unfold opening
  simp [unindented]

/-- A conversion throws exactly if it refuses something. -/
theorem exists_isThrow_iff (conversion : Conversion) :
    (∃ line ∈ conversion.lines, IsThrow line) ↔ conversion.refuses = true := by
  rw [refuses, List.any_eq_true]
  constructor
  · rintro ⟨line, hline, hthrow⟩
    rcases mem_lines_iff.mp hline with
      rfl | rfl | ⟨_, ⟨arm, harm, ⟨label, _, rfl⟩ | rfl⟩, rfl⟩ | rfl | rfl
    · exact (not_isThrow_of_head? (by rw [head?_opening]; decide) hthrow).elim
    · exact (not_isThrow_of_head? (by decide) hthrow).elim
    · exact (label.not_isThrow_line (isThrow_indentLine.mp hthrow)).elim
    · exact ⟨arm, harm, arm.statement.isThrow_line_iff.mp (isThrow_indentLine.mp hthrow)⟩
    · exact (not_isThrow_of_head? (by decide) hthrow).elim
    · exact (not_isThrow_of_head? (by decide) hthrow).elim
  · rintro ⟨arm, harm, hrefuses⟩
    exact ⟨_, mem_lines_iff.mpr (.inr (.inr (.inl ⟨_, ⟨arm, harm, .inr rfl⟩, rfl⟩))),
      isThrow_indentLine.mpr (arm.statement.isThrow_line_iff.mpr hrefuses)⟩

/-- No line of a conversion opens a constant. -/
theorem not_opensConstant {conversion : Conversion} {line : String}
    (hline : line ∈ conversion.lines) : ¬ OpensConstant (unindented line) := by
  rcases mem_lines_iff.mp hline with
    rfl | rfl | ⟨_, ⟨arm, harm, ⟨label, _, rfl⟩ | rfl⟩, rfl⟩ | rfl | rfl
  · exact not_opensConstant_of_head? (by rw [head?_opening]; decide)
  · exact not_opensConstant_of_head? (by decide)
  · rw [unindented_indentLine]
    apply not_opensConstant_of_getLast?
    cases label with
    | value expression =>
      have hcolon : ":".toList.getLast? = some ':' := rfl
      rw [Label.line, String.toList_append, List.getLast?_append, hcolon, Option.some_or]
      decide
    | otherwise => decide
  · rw [unindented_indentLine]
    apply not_opensConstant_of_head?
    cases arm.statement <;> simp [Statement.line, indentUnit, unindented]
  · exact not_opensConstant_of_head? (by decide)
  · exact not_opensConstant_of_head? (by decide)

end Conversion

/-! ## Declarations -/

namespace Representation

/-- The line of a member opens nothing, since it ends with a comma. -/
theorem not_opensConstant_memberLine (representation : Representation) (name valueCode : String) :
    ¬ OpensConstant (unindented (representation.memberLine name valueCode)) := by
  obtain ⟨sign, _, htext⟩ := toList_memberLine representation name valueCode
  apply not_opensConstant_of_getLast?
  rw [htext]
  simp

theorem not_opensConstant_scopeOpening (representation : Representation) (scope : String) :
    ¬ OpensConstant (unindented (representation.scopeOpening scope)) := by
  apply not_opensConstant_of_head?
  unfold scopeOpening
  cases representation <;> simp [unindented]

theorem not_opensConstant_declarationOpening (representation : Representation) (name : String) :
    ¬ OpensConstant (unindented (representation.declarationOpening name)) := by
  apply not_opensConstant_of_head?
  unfold declarationOpening
  match representation with
  | .native true | .native false | .literal => simp [unindented]

theorem not_opensConstant_closing {representation : Representation} {name : String}
    {members : List String} {line : String} (hline : line ∈ representation.closing name members) :
    ¬ OpensConstant (unindented line) := by
  cases representation with
  | native erased =>
    rw [closing, List.mem_singleton] at hline
    rw [hline]
    exact not_opensConstant_of_head? (by decide)
  | literal =>
    rw [closing, List.mem_append, List.mem_append, List.mem_singleton] at hline
    apply not_opensConstant_of_head?
    rcases hline with (hline | hline) | rfl
    · simp only [List.mem_cons, List.not_mem_nil, or_false] at hline
      rcases hline with rfl | rfl | rfl | rfl | rfl
      · decide
      · decide
      · simp [unindented]
      · decide
      · simp [unindented]
    · obtain ⟨inner, hinner, rfl⟩ := List.mem_map.mp hline
      obtain ⟨member, _, rfl⟩ := List.mem_map.mp hinner
      rw [unindented_indentLine]
      unfold aliasLine
      simp [unindented]
    · decide

end Representation

/-- No line of a declaration opens a constant, if its comments are remarks. -/
theorem Declaration.not_opensConstant {declaration : Declaration}
    (hcomment : ∀ line ∈ declaration.comment, IsRemark line)
    (hmembers : ∀ member ∈ declaration.members, ∀ line ∈ member.comment, IsRemark line)
    {line : String} (hline : line ∈ declaration.lines) : ¬ OpensConstant (unindented line) := by
  have htext : unindented line ∈ declaration.lines.map unindented := List.mem_map_of_mem hline
  rw [map_unindented_lines, List.mem_append, List.mem_cons, List.mem_append] at htext
  rcases htext with hlead | hopening | hbody | hclosing
  · obtain ⟨lead, hlead, hsame⟩ := List.mem_map.mp hlead
    rw [← hsame]
    rcases List.mem_append.mp hlead with hlead | hlead
    · exact not_opensConstant_of_isRemark (hcomment lead hlead)
    · cases hscope : declaration.scope with
      | none => simp [hscope] at hlead
      | some scope =>
        have heq : lead = declaration.representation.scopeOpening scope := by
          simpa [hscope] using hlead
        rw [heq]
        exact Representation.not_opensConstant_scopeOpening _ _
  · rw [hopening]
    exact Representation.not_opensConstant_declarationOpening _ _
  · obtain ⟨inner, hinner, hsame⟩ := List.mem_map.mp hbody
    obtain ⟨member, hmember, hinner⟩ := List.mem_flatMap.mp hinner
    rw [← hsame]
    rcases List.mem_append.mp hinner with hinner | hinner
    · exact not_opensConstant_of_isRemark (hmembers member hmember inner hinner)
    · rw [List.mem_singleton.mp hinner]
      exact Representation.not_opensConstant_memberLine _ _ _
  · obtain ⟨closing, hclosing, hsame⟩ := List.mem_map.mp hclosing
    rw [← hsame]
    rcases List.mem_append.mp hclosing with hclosing | hclosing
    · exact Representation.not_opensConstant_closing hclosing
    · cases hscope : declaration.scope with
      | none => simp [hscope] at hclosing
      | some scope =>
        have hbrace : closing = "\x7d" := by simpa [hscope] using hclosing
        rw [hbrace]
        exact not_opensConstant_of_head? (by decide)

end EnumBindings.Script
