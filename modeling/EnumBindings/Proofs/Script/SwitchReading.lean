import EnumBindings.Proofs.Script.LineReading
import EnumBindings.Script.Switch

/-!
# Reading conversion functions

A function is found in lines of code by its opening line. Its body is read line by line: labels are
collected until a statement ends their arm. Reading the lines of a conversion gives its arms, with
labels and results as they are spelled.
-/

namespace EnumBindings.Script

/-- How a function ends. -/
inductive Outcome where
  /-- It returns the value of an expression. -/
  | gives (code : String)
  | throws
  /-- It returns nothing, since no arm applies. -/
  | ends
  deriving DecidableEq, Repr

/-- What a line of a switch holds. -/
inductive SwitchLine where
  | label (code : String)
  | otherwise
  | statement (outcome : Outcome)
  | filler
  deriving DecidableEq, Repr

/-- An arm as it is read. -/
structure Branch where
  labels : List String
  isDefault : Bool
  outcome : Outcome
  deriving DecidableEq, Repr

/-- Reads a line of a switch. -/
def SwitchLine.read (line : String) : SwitchLine :=
  let text := unindented line
  match within? "case ".toList ":".toList text with
  | some code => .label (String.ofList code)
  | none =>
    if text = "default:".toList then .otherwise
    else
      match within? "return ".toList ";".toList text with
      | some code => .statement (.gives (String.ofList code))
      | none => if "throw ".toList.isPrefixOf text then .statement .throws else .filler

/-- Reads arms, given the labels that already stand before the lines. -/
def readBranches (labels : List String) (isDefault : Bool) : List SwitchLine → List Branch
  | [] => []
  | .label code :: lines => readBranches (labels ++ [code]) isDefault lines
  | .otherwise :: lines => readBranches labels true lines
  | .statement outcome :: lines => ⟨labels, isDefault, outcome⟩ :: readBranches [] false lines
  | .filler :: lines => readBranches labels isDefault lines

/-- Whether a line opens the function with a name. -/
def opensFunction (name line : String) : Bool :=
  ("export function " ++ name ++ "(").toList.isPrefixOf line.toList

/-- The lines of the function with a name, without the brace that closes it. -/
def functionLines (name : String) (lines : List String) : List String :=
  (lines.dropWhile (!opensFunction name ·)).takeWhile (· ≠ "\x7d")

/-- The arms of the function with a name. -/
def functionBranches (name : String) (lines : List String) : List Branch :=
  readBranches [] false ((functionLines name lines).map SwitchLine.read)

/-- The spelling of the expression of a label. -/
def Label.code? : Label → Option String
  | .value expression => some expression.code
  | .otherwise => none

/-- Whether a label is the one that everything else matches. -/
def Label.isOtherwise : Label → Bool
  | .value _ => false
  | .otherwise => true

/-- How a function ends with a statement. -/
def Statement.outcome : Statement → Outcome
  | .give expression => .gives expression.code
  | .refuse _ => .throws

/-- An arm as it is to be read. -/
def Arm.branch (arm : Arm) : Branch where
  labels := arm.labels.filterMap Label.code?
  isDefault := arm.labels.any Label.isOtherwise
  outcome := arm.statement.outcome

@[simp] theorem SwitchLine.read_indentLine (level : Int) (line : String) :
    SwitchLine.read (indentLine level line) = SwitchLine.read line := by
  unfold SwitchLine.read
  rw [unindented_indentLine]

/-- A line that begins in none of the ways that matter is passed over. -/
theorem SwitchLine.read_eq_filler {line : String}
    (hline : ∀ c ∈ (unindented line).head?, c ∉ ['c', 'd', 'r', 't']) :
    SwitchLine.read line = .filler := by
  have hhead (c : Char) (hc : c ∈ ['c', 'd', 'r', 't']) : (unindented line).head? ≠ some c :=
    fun h => hline c h hc
  have hcase : within? "case ".toList ":".toList (unindented line) = none :=
    within?_eq_none_of_head? rfl (hhead 'c' (by decide))
  have hreturn : within? "return ".toList ";".toList (unindented line) = none :=
    within?_eq_none_of_head? rfl (hhead 'r' (by decide))
  have hdefault : unindented line ≠ "default:".toList := fun h =>
    hhead 'd' (by decide) (by rw [h]; rfl)
  have hthrow : "throw ".toList.isPrefixOf (unindented line) = false := by
    rw [Bool.eq_false_iff, Ne, List.isPrefixOf_iff_prefix]
    rintro ⟨rest, hrest⟩
    exact hhead 't' (by decide) (by rw [← hrest]; rfl)
  unfold SwitchLine.read
  simp only [hcase, hreturn, if_neg hdefault, hthrow, Bool.false_eq_true, if_false]

/-- The line of a label is read as that label. -/
theorem SwitchLine.read_label (label : Label) :
    SwitchLine.read label.line =
      match label.code? with
      | some code => .label code
      | none => .otherwise := by
  cases label with
  | value expression =>
    have htext : unindented (Label.value expression).line =
        "case ".toList ++ expression.code.toList ++ ":".toList := by
      rw [unindented_of_head? (by simp [Label.line])]
      simp [Label.line]
    simp only [SwitchLine.read, htext, within?_append, String.ofList_toList, Label.code?]
  | otherwise => rfl

/-- The line of a statement is read as that statement. -/
theorem SwitchLine.read_statement (statement : Statement) :
    SwitchLine.read (indentUnit ++ statement.line) = .statement statement.outcome := by
  have hindent : indentUnit ++ statement.line = indentLine 1 statement.line := by
    cases statement <;> rfl
  rw [hindent, SwitchLine.read_indentLine]
  cases statement with
  | give expression =>
    have htext : unindented (Statement.give expression).line =
        "return ".toList ++ expression.code.toList ++ ";".toList := by
      rw [unindented_of_head? (by simp [Statement.line])]
      simp [Statement.line]
    have hcase : within? "case ".toList ":".toList
        ("return ".toList ++ expression.code.toList ++ ";".toList) = none :=
      within?_eq_none_of_head? (c := 'c') rfl (by simp)
    have hdefault : "return ".toList ++ expression.code.toList ++ ";".toList ≠
        "default:".toList := by
      simp
    simp only [SwitchLine.read, htext, hcase, if_neg hdefault, within?_append,
      String.ofList_toList, Statement.outcome]
  | refuse enumName =>
    have htext : ∃ rest, unindented (Statement.refuse enumName).line = "throw ".toList ++ rest := by
      rw [unindented_of_head? (by simp [Statement.line])]
      simp [Statement.line]
    obtain ⟨rest, htext⟩ := htext
    have hcase : within? "case ".toList ":".toList ("throw ".toList ++ rest) = none :=
      within?_eq_none_of_head? (c := 'c') rfl (by simp)
    have hreturn : within? "return ".toList ";".toList ("throw ".toList ++ rest) = none :=
      within?_eq_none_of_head? (c := 'r') rfl (by simp)
    have hdefault : "throw ".toList ++ rest ≠ "default:".toList := by simp
    have hthrow : "throw ".toList.isPrefixOf ("throw ".toList ++ rest) = true :=
      List.isPrefixOf_iff_prefix.mpr (List.prefix_append _ _)
    simp only [SwitchLine.read, htext, hcase, hreturn, if_neg hdefault, hthrow, if_true,
      Statement.outcome]

/-- Labels are collected in order. -/
theorem readBranches_labels (codes : List String) (isDefault : Bool) (labels : List Label)
    (lines : List SwitchLine) :
    readBranches codes isDefault (labels.map (SwitchLine.read ·.line) ++ lines) =
      readBranches (codes ++ labels.filterMap Label.code?)
        (isDefault || labels.any Label.isOtherwise) lines := by
  induction labels generalizing codes isDefault with
  | nil => simp
  | cons label labels ih =>
    rw [List.map_cons, List.cons_append, SwitchLine.read_label]
    cases label with
    | value expression =>
      show readBranches (codes ++ [expression.code]) isDefault _ = _
      rw [ih]
      simp [Label.code?, Label.isOtherwise]
    | otherwise =>
      show readBranches codes true _ = _
      rw [ih, List.filterMap_cons_none rfl]
      simp [Label.isOtherwise]

/-- Reading the lines of arms gives the arms. -/
theorem readBranches_arms (arms : List Arm) (lines : List SwitchLine) :
    readBranches [] false ((arms.flatMap Arm.lines).map SwitchLine.read ++ lines) =
      arms.map Arm.branch ++ readBranches [] false lines := by
  induction arms with
  | nil => rfl
  | cons arm arms ih =>
    have hlines : (arm.lines.map SwitchLine.read) =
        arm.labels.map (SwitchLine.read ·.line) ++ [.statement arm.statement.outcome] := by
      simp [Arm.lines, SwitchLine.read_statement, Function.comp_def]
    rw [List.flatMap_cons, List.map_append, hlines, List.append_assoc, List.append_assoc,
      readBranches_labels]
    show ⟨_, _, _⟩ :: readBranches [] false (_ ++ lines) = arm.branch :: (arms.map _ ++ _)
    rw [List.nil_append, Bool.false_or, ih, Arm.branch]

/-- A text opens a function if it begins with the opening of the function. -/
theorem opensFunction_append {name text : String}
    (hopens : opensFunction name text = true) (rest : String) :
    opensFunction name (text ++ rest) = true := by
  rw [opensFunction, List.isPrefixOf_iff_prefix] at hopens ⊢
  rw [@String.toList_append text]
  exact hopens.trans (List.prefix_append _ _)

/-- A line that does not begin like an export opens no function. -/
theorem opensFunction_eq_false_of_head? {name line : String}
    (hline : line.toList.head? ≠ some 'e') : opensFunction name line = false := by
  rw [opensFunction, Bool.eq_false_iff, Ne, List.isPrefixOf_iff_prefix]
  rintro ⟨rest, hrest⟩
  exact hline (by rw [← hrest]; simp)

/-- A line opens no function if it does not begin like an export behind its indentation. -/
theorem opensFunction_of_unindented {name line : String}
    (hline : (unindented line).head? ≠ some 'e') : opensFunction name line = false := by
  apply opensFunction_eq_false_of_head?
  intro hhead
  have htext : unindented line = line.toList := unindented_of_head? (by rw [hhead]; decide)
  rw [htext] at hline
  exact hline hhead

/-- A function is looked for behind lines that do not open it. -/
theorem functionBranches_append {name : String} {lines : List String}
    (hlines : ∀ line ∈ lines, opensFunction name line = false) (rest : List String) :
    functionBranches name (lines ++ rest) = functionBranches name rest := by
  unfold functionBranches functionLines
  rw [List.dropWhile_append_of_pos]
  intro line hline
  rw [hlines line hline]
  rfl

namespace Conversion

/-- The lines between the first and the last line of a conversion. -/
def bodyLines (conversion : Conversion) : List String :=
  (indentUnit ++ "switch (object) \x7b") :: indent 2 (conversion.arms.flatMap Arm.lines) ++
    [indentUnit ++ "\x7d"]

theorem lines_eq (conversion : Conversion) :
    conversion.lines = conversion.opening :: conversion.bodyLines ++ ["\x7d"] := by
  simp [lines, bodyLines]

/-- A conversion is opened by its first line. -/
theorem opensFunction_opening (conversion : Conversion) :
    opensFunction conversion.name conversion.opening = true := by
  have hparenthesis : "(".toList <+: "(object: ".toList := by decide
  rw [opensFunction, List.isPrefixOf_iff_prefix]
  unfold opening
  simp only [String.toList_append, List.append_assoc]
  rw [List.prefix_append_right_inj, List.prefix_append_right_inj]
  exact hparenthesis.trans (List.prefix_append _ _)

/-- The lines of the body are indented. -/
theorem head?_of_mem_bodyLines {conversion : Conversion} {line : String}
    (hline : line ∈ conversion.bodyLines) : line.toList.head? = some ' ' := by
  simp only [bodyLines, List.cons_append, List.mem_cons, List.mem_append, indent, List.mem_map,
    List.mem_flatMap, Arm.lines] at hline
  rcases hline with rfl | ⟨inner, ⟨arm, _, hinner⟩, rfl⟩ | rfl | h
  · rfl
  · apply head?_indentLine (by decide)
    rcases hinner with ⟨label, _, rfl⟩ | rfl | h
    · cases label <;> simp [Label.line]
    · simp [indentUnit]
    · cases h
  · rfl
  · cases h

/-- No other line than the first opens a function. -/
theorem opensFunction_of_mem_lines {name : String} {conversion : Conversion}
    (hopening : opensFunction name conversion.opening = false) {line : String}
    (hline : line ∈ conversion.lines) : opensFunction name line = false := by
  rw [lines_eq, List.cons_append, List.mem_cons, List.mem_append, List.mem_singleton] at hline
  rcases hline with rfl | hline | rfl
  · exact hopening
  · apply opensFunction_eq_false_of_head?
    rw [head?_of_mem_bodyLines hline]
    decide
  · exact opensFunction_eq_false_of_head? (by decide)

/-- The lines of a conversion are found by its name. -/
theorem functionLines_lines (conversion : Conversion) (rest : List String) :
    functionLines conversion.name (conversion.lines ++ rest) =
      conversion.opening :: conversion.bodyLines := by
  have hopening : (!opensFunction conversion.name conversion.opening) = false := by
    rw [opensFunction_opening]
    rfl
  have hopeningNe : conversion.opening ≠ "\x7d" := by
    intro h
    have hopens := opensFunction_opening conversion
    rw [h] at hopens
    exact absurd hopens (by rw [opensFunction_eq_false_of_head? (by decide)]; decide)
  have hbody : ∀ line ∈ conversion.opening :: conversion.bodyLines,
      decide (line ≠ "\x7d") = true := by
    intro line hline
    rcases List.mem_cons.mp hline with rfl | hline
    · exact decide_eq_true hopeningNe
    · have hhead := head?_of_mem_bodyLines hline
      refine decide_eq_true ?_
      rintro rfl
      cases hhead
  rw [lines_eq, functionLines, List.append_assoc, List.cons_append,
    List.dropWhile_cons_of_neg (by simp [hopening]), ← List.cons_append,
    List.takeWhile_append_of_pos hbody]
  simp

/-- Reading a conversion gives its arms, with labels and results as they are spelled. -/
theorem functionBranches_lines (conversion : Conversion) (rest : List String) :
    functionBranches conversion.name (conversion.lines ++ rest) =
      conversion.arms.map Arm.branch := by
  have hopening : SwitchLine.read conversion.opening = .filler := by
    apply SwitchLine.read_eq_filler
    unfold opening
    simp [unindented]
  have hswitch : SwitchLine.read (indentUnit ++ "switch (object) \x7b") = .filler := by decide
  have hclosing : SwitchLine.read (indentUnit ++ "\x7d") = .filler := by decide
  have harms : (indent 2 (conversion.arms.flatMap Arm.lines)).map SwitchLine.read =
      (conversion.arms.flatMap Arm.lines).map SwitchLine.read := by
    simp [indent]
  rw [functionBranches, functionLines_lines, bodyLines, List.map_cons, hopening, List.map_append,
    List.map_cons, hswitch, harms, List.map_singleton, hclosing]
  show readBranches [] false
    ((conversion.arms.flatMap Arm.lines).map SwitchLine.read ++ [.filler]) = _
  rw [readBranches_arms]
  simp [readBranches]

end Conversion

end EnumBindings.Script
