import EnumBindings.Proofs.Script.LineReading
import EnumBindings.Proofs.Script.Literal
import EnumBindings.Script.Declaration

/-!
# Reading declarations

The declaration of an enumeration is found in lines of code by its opening line. Its members stand
behind that line, each with a literal, up to the first line with a closing brace. Reading the lines
of a declaration gives its members with their values.
-/

namespace EnumBindings.Script

/-- Whether a line opens the declaration with a name. -/
def opensDeclaration (name : String) (line : List Char) : Bool :=
  line = "export enum ".toList ++ name.toList ++ " \x7b".toList ||
    line = "export const enum ".toList ++ name.toList ++ " \x7b".toList ||
    line = "export const ".toList ++ name.toList ++ " = \x7b".toList

/-- Reads a line that declares a member: an identifier, a sign, a literal and a comma. -/
def readMember? (line : List Char) : Option (String × Value) :=
  let name := line.takeWhile Text.isIdentifierPart
  let rest := line.dropWhile Text.isIdentifierPart
  if Text.isIdentifier name then
    ((within? " = ".toList ",".toList rest).or (within? ": ".toList ",".toList rest)).bind
      fun code => (Value.ofLiteral? code).map fun value => (String.ofList name, value)
  else none

/-- The name and the code of the value in a line that declares a member. -/
def memberParts? (line : List Char) : Option (List Char × List Char) :=
  let name := line.takeWhile Text.isIdentifierPart
  let rest := line.dropWhile Text.isIdentifierPart
  if Text.isIdentifier name then
    ((within? " = ".toList ",".toList rest).or (within? ": ".toList ",".toList rest)).map
      fun code => (name, code)
  else none

/-- The members of the declaration with a name, with their values. -/
def readMembers (name : String) (lines : List String) : List (String × Value) :=
  (((lines.map unindented).dropWhile (!opensDeclaration name ·)).tail.takeWhile
    (·.head? ≠ some '\x7d')).filterMap readMember?

/-- What stands behind the line that opens the declaration with a name. -/
def behindOpening (name : String) (lines : List String) : List (List Char) :=
  ((lines.map unindented).dropWhile (!opensDeclaration name ·)).tail

/-- A line of a block comment. -/
def IsRemark (line : String) : Prop :=
  (unindented line).head? = some '/' ∨ (unindented line).head? = some '*'

/-- The member that a line is to be read as. -/
def DeclaredMember.reading? (member : DeclaredMember) : Option (String × Value) :=
  (Value.ofLiteral? member.value.code.toList).map fun value => (member.name, value)

/-- A declared member that can be read: its name is an identifier, and nothing but remarks
stands before it. -/
structure DeclaredMember.Readable (member : DeclaredMember) : Prop where
  comment : ∀ line ∈ member.comment, IsRemark line
  name : Text.isIdentifier member.name.toList = true

/-- No declaration is opened by a line that does not begin like an export. -/
theorem opensDeclaration_eq_false_of_head? {name : String} {line : List Char}
    (hline : line.head? ≠ some 'e') : opensDeclaration name line = false := by
  have hne (text : List Char) (htext : text.head? = some 'e') : line ≠ text := by
    rintro rfl
    exact hline htext
  simp only [opensDeclaration, Bool.or_eq_false_iff, decide_eq_false_iff_not]
  exact ⟨⟨hne _ (by simp), hne _ (by simp)⟩, hne _ (by simp)⟩

/-- A scope is opened in another way than a declaration. -/
theorem opensDeclaration_scopeOpening (representation : Representation) (scope name : String) :
    opensDeclaration name (unindented (representation.scopeOpening scope)) = false := by
  cases representation with
  | native erased =>
    have htext : unindented ((Representation.native erased).scopeOpening scope) =
        "export declare namespace ".toList ++ scope.toList ++ " \x7b".toList := by
      unfold Representation.scopeOpening
      simp only [unindented, String.toList_append]
      simp
    rw [htext]
    simp [opensDeclaration]
  | literal =>
    have htext : unindented (Representation.literal.scopeOpening scope) =
        "export namespace ".toList ++ scope.toList ++ " \x7b".toList := by
      unfold Representation.scopeOpening
      simp only [unindented, String.toList_append]
      simp
    rw [htext]
    simp [opensDeclaration]

/-- In every representation a declaration is opened by its opening line. -/
theorem opensDeclaration_declarationOpening (representation : Representation) (name : String) :
    opensDeclaration name (unindented (representation.declarationOpening name)) = true := by
  match representation with
  | .native true =>
    unfold Representation.declarationOpening
    simp only [unindented, String.toList_append]
    simp [opensDeclaration]
  | .native false =>
    unfold Representation.declarationOpening
    simp only [unindented, String.toList_append]
    simp [opensDeclaration]
  | .literal =>
    unfold Representation.declarationOpening
    simp only [unindented, String.toList_append]
    simp [opensDeclaration]

/-- A declaration is looked for behind lines that do not open it. -/
theorem readMembers_append {name : String} {lines : List String}
    (hlines : ∀ line ∈ lines, opensDeclaration name (unindented line) = false)
    (rest : List String) : readMembers name (lines ++ rest) = readMembers name rest := by
  have hclosed : ∀ line ∈ lines.map unindented, (!opensDeclaration name line) = true := by
    intro text htext
    obtain ⟨line, hline, rfl⟩ := List.mem_map.mp htext
    rw [hlines line hline]
    rfl
  rw [readMembers, List.map_append, List.dropWhile_append_of_pos hclosed, readMembers]

/-- In every representation the members end at a brace. -/
theorem closing_eq_cons (representation : Representation) (name : String) (members : List String) :
    ∃ line rest, representation.closing name members = line :: rest ∧
      (unindented line).head? = some '\x7d' := by
  cases representation with
  | native erased => exact ⟨_, _, rfl, rfl⟩
  | literal => exact ⟨_, _, rfl, by decide⟩

/-- A member is read from the parts of its line. -/
theorem readMember?_eq (line : List Char) :
    readMember? line = (memberParts? line).bind fun parts =>
      (Value.ofLiteral? parts.2).map fun value => (String.ofList parts.1, value) := by
  simp only [readMember?, memberParts?]
  split
  · rw [Option.bind_map]
    rfl
  · rfl

/-- A name, one of the two signs, the code of a value and a comma are told apart. -/
theorem memberParts?_append {name sign : List Char} (hname : Text.isIdentifier name = true)
    (hsign : sign = " = ".toList ∨ sign = ": ".toList) (code : List Char) :
    memberParts? (name ++ (sign ++ code ++ ",".toList)) = some (name, code) := by
  have hparts := isIdentifierPart_of_mem hname
  obtain ⟨rest, hstop⟩ : ∃ c rest, sign ++ code ++ ",".toList = c :: rest ∧
      Text.isIdentifierPart c = false := by
    rcases hsign with rfl | rfl
    · exact ⟨' ', _, rfl, by decide⟩
    · exact ⟨':', _, rfl, by decide⟩
  obtain ⟨rest, heq, hc⟩ := hstop
  have htake : (name ++ (sign ++ code ++ ",".toList)).takeWhile Text.isIdentifierPart = name := by
    rw [heq, List.takeWhile_append_of_pos hparts, List.takeWhile_cons_of_neg (by simp [hc]),
      List.append_nil]
  have hdrop : (name ++ (sign ++ code ++ ",".toList)).dropWhile Text.isIdentifierPart =
      sign ++ code ++ ",".toList := by
    rw [heq, List.dropWhile_append_of_pos hparts, List.dropWhile_cons_of_neg (by simp [hc])]
  have hcode : (within? " = ".toList ",".toList (sign ++ code ++ ",".toList)).or
      (within? ": ".toList ",".toList (sign ++ code ++ ",".toList)) = some code := by
    rcases hsign with rfl | rfl
    · rw [within?_append, Option.some_or]
    · rw [within?_append, within?_eq_none_of_head? (c := ' ') rfl (by simp), Option.none_or]
  simp only [memberParts?, htake, hdrop, hcode, hname, if_true, Option.map_some]

/-- In every representation the line of a member has the form that is read. -/
theorem toList_memberLine (representation : Representation) (name valueCode : String) :
    ∃ sign, (sign = " = ".toList ∨ sign = ": ".toList) ∧
      (representation.memberLine name valueCode).toList =
        name.toList ++ (sign ++ valueCode.toList ++ ",".toList) := by
  cases representation with
  | native erased =>
    refine ⟨" = ".toList, Or.inl rfl, ?_⟩
    unfold Representation.memberLine
    simp only [String.toList_append, List.append_assoc]
  | literal =>
    refine ⟨": ".toList, Or.inr rfl, ?_⟩
    unfold Representation.memberLine
    simp only [String.toList_append, List.append_assoc]

/-- The line of a member begins with a character of its name. -/
theorem head?_memberLine (representation : Representation) {name : String}
    (hname : Text.isIdentifier name.toList = true) (valueCode : String) :
    ∃ c, Text.isIdentifierPart c = true ∧
      (representation.memberLine name valueCode).toList.head? = some c := by
  obtain ⟨sign, _, htext⟩ := toList_memberLine representation name valueCode
  cases hlist : name.toList with
  | nil => rw [hlist] at hname; cases hname
  | cons first rest =>
    refine ⟨first, isIdentifierPart_of_mem hname first (by simp [hlist]), ?_⟩
    rw [htext, hlist]
    rfl

/-- The line of a member has no indentation of its own. -/
theorem unindented_memberLine (representation : Representation) {name : String}
    (hname : Text.isIdentifier name.toList = true) (valueCode : String) :
    unindented (representation.memberLine name valueCode) =
      (representation.memberLine name valueCode).toList := by
  obtain ⟨c, hc, hhead⟩ := head?_memberLine representation hname valueCode
  apply unindented_of_head?
  rw [hhead]
  rintro h
  rw [Option.some.inj h] at hc
  exact absurd hc (by decide)

/-- The line of a member has its name and the code of its value as parts. -/
theorem memberParts?_memberLine (representation : Representation) {name : String}
    (hname : Text.isIdentifier name.toList = true) (valueCode : String) :
    memberParts? (unindented (representation.memberLine name valueCode)) =
      some (name.toList, valueCode.toList) := by
  obtain ⟨sign, hsign, htext⟩ := toList_memberLine representation name valueCode
  rw [unindented_memberLine representation hname, htext, memberParts?_append hname hsign]

/-- A remark declares no member. -/
theorem memberParts?_of_isRemark {line : String} (hline : IsRemark line) :
    memberParts? (unindented line) = none := by
  have hname : (unindented line).takeWhile Text.isIdentifierPart = [] := by
    cases htext : unindented line with
    | nil => rfl
    | cons first rest =>
      have hfirst : first = '/' ∨ first = '*' := by
        simpa [IsRemark, htext] using hline
      apply List.takeWhile_cons_of_neg
      rcases hfirst with rfl | rfl <;> decide
  simp only [memberParts?, hname, Text.isIdentifier, Bool.false_eq_true, if_false]

/-- A line of a readable member is a remark or the line that declares the member. -/
theorem mem_lines_of_readable {representation : Representation} {member : DeclaredMember}
    (hmember : member.Readable) {line : String} (hline : line ∈ member.lines representation) :
    IsRemark line ∨ line = representation.memberLine member.name member.value.code := by
  rcases List.mem_append.mp hline with hline | hline
  · exact Or.inl (hmember.comment line hline)
  · exact Or.inr (List.mem_singleton.mp hline)

/-- No line of a readable member begins with a brace. -/
theorem head?_of_mem_lines {representation : Representation} {member : DeclaredMember}
    (hmember : member.Readable) {line : String} (hline : line ∈ member.lines representation) :
    (unindented line).head? ≠ some '\x7d' := by
  intro hbrace
  rcases mem_lines_of_readable hmember hline with hremark | rfl
  · rcases hremark with h | h <;> rw [h] at hbrace <;> cases hbrace
  · obtain ⟨c, hc, hhead⟩ := head?_memberLine representation hmember.name member.value.code
    rw [unindented_memberLine representation hmember.name, hhead] at hbrace
    rw [Option.some.inj hbrace] at hc
    exact absurd hc (by decide)

/-- Whatever is read from the parts of lines is read once for each readable member. -/
theorem filterMap_memberParts?_lines {α : Type} (representation : Representation)
    (read : List Char × List Char → Option α) {members : List DeclaredMember}
    (hmembers : ∀ member ∈ members, member.Readable) :
    ((members.flatMap (·.lines representation)).map unindented).filterMap
        (fun line => (memberParts? line).bind read) =
      members.filterMap fun member => read (member.name.toList, member.value.code.toList) := by
  induction members with
  | nil => rfl
  | cons member members ih =>
    have hmember := hmembers member List.mem_cons_self
    have hcomment : (member.comment.map unindented).filterMap
        (fun line => (memberParts? line).bind read) = [] := by
      rw [List.filterMap_map, List.filterMap_eq_nil_iff]
      intro line hline
      rw [Function.comp_apply, memberParts?_of_isRemark (hmember.comment line hline),
        Option.bind_none]
    rw [List.flatMap_cons, List.map_append, List.filterMap_append,
      ih fun other hother => hmembers other (List.mem_cons_of_mem _ hother),
      DeclaredMember.lines, List.map_append, List.filterMap_append, hcomment, List.nil_append,
      List.map_singleton, List.filterMap_cons, List.filterMap_cons, List.filterMap_nil,
      memberParts?_memberLine _ hmember.name, Option.bind_some]
    cases read (member.name.toList, member.value.code.toList) <;> rfl

/-- The lines of readable members are read as these members. -/
theorem filterMap_readMember?_lines (representation : Representation)
    {members : List DeclaredMember} (hmembers : ∀ member ∈ members, member.Readable) :
    ((members.flatMap (·.lines representation)).map unindented).filterMap readMember? =
      members.filterMap DeclaredMember.reading? := by
  rw [funext readMember?_eq, filterMap_memberParts?_lines representation _ hmembers]
  refine List.filterMap_congr fun member _ => ?_
  rw [String.ofList_toList, DeclaredMember.reading?]

namespace Declaration

/-- The lines before the one that opens the declaration. -/
def leadLines (declaration : Declaration) : List String :=
  declaration.comment ++
    match declaration.scope with
    | none => []
    | some scope => [declaration.representation.scopeOpening scope]

/-- The lines that close the declaration, and its scope if it has one. -/
def closingLines (declaration : Declaration) : List String :=
  declaration.representation.closing declaration.name (declaration.members.map (·.name)) ++
    match declaration.scope with
    | none => []
    | some _ => ["\x7d"]

/-- Up to indentation, a declaration consists of what leads to it, its opening line, its members
and what closes it. -/
theorem map_unindented_lines (declaration : Declaration) :
    declaration.lines.map unindented = declaration.leadLines.map unindented ++
      unindented (declaration.representation.declarationOpening declaration.name) ::
        ((declaration.members.flatMap (·.lines declaration.representation)).map unindented ++
          declaration.closingLines.map unindented) := by
  cases hscope : declaration.scope with
  | none => simp [lines, leadLines, closingLines, innerLines, hscope]
  | some scope => simp [lines, leadLines, closingLines, innerLines, hscope]

/-- What closes a declaration begins with a brace. -/
theorem closingLines_eq_cons (declaration : Declaration) :
    ∃ line rest, declaration.closingLines = line :: rest ∧
      (unindented line).head? = some '\x7d' := by
  obtain ⟨line, rest, hclosing, hbrace⟩ := closing_eq_cons declaration.representation
    declaration.name (declaration.members.map (·.name))
  exact ⟨line, _, by rw [closingLines, hclosing, List.cons_append], hbrace⟩

variable {declaration : Declaration}

/-- Behind its opening line a declaration has its members and what closes it. -/
theorem behindOpening_lines (hcomment : ∀ line ∈ declaration.comment, IsRemark line)
    (rest : List String) :
    behindOpening declaration.name (declaration.lines ++ rest) =
      (declaration.members.flatMap (·.lines declaration.representation)).map unindented ++
        (declaration.closingLines ++ rest).map unindented := by
  have hlead : ∀ line ∈ declaration.leadLines.map unindented,
      opensDeclaration declaration.name line = false := by
    intro text htext
    obtain ⟨line, hline, rfl⟩ := List.mem_map.mp htext
    rcases List.mem_append.mp hline with hline | hline
    · apply opensDeclaration_eq_false_of_head?
      rcases hcomment line hline with h | h <;> rw [h] <;> decide
    · cases hscope : declaration.scope with
      | none => simp [hscope] at hline
      | some scope =>
        have heq : line = declaration.representation.scopeOpening scope := by
          simpa [hscope] using hline
        rw [heq]
        exact opensDeclaration_scopeOpening _ _ _
  have hopening :=
    opensDeclaration_declarationOpening declaration.representation declaration.name
  rw [behindOpening, List.map_append, map_unindented_lines, List.append_assoc,
    List.dropWhile_append_of_pos (by simpa using hlead), List.cons_append,
    List.dropWhile_cons_of_neg (by simp [hopening]), List.tail_cons, List.append_assoc,
    List.map_append]

/-- No line of readable members begins with a brace. -/
theorem head?_of_mem_members (hmembers : ∀ member ∈ declaration.members, member.Readable) :
    ∀ line ∈ (declaration.members.flatMap (·.lines declaration.representation)).map unindented,
      line.head? ≠ some '\x7d' := by
  intro text htext
  obtain ⟨line, hline, rfl⟩ := List.mem_map.mp htext
  obtain ⟨member, hmember, hline⟩ := List.mem_flatMap.mp hline
  exact head?_of_mem_lines (hmembers member hmember) hline

/-- Up to the first brace behind its opening line a declaration has its members. -/
theorem takeWhile_behindOpening (hcomment : ∀ line ∈ declaration.comment, IsRemark line)
    (hmembers : ∀ member ∈ declaration.members, member.Readable) (rest : List String) :
    (behindOpening declaration.name (declaration.lines ++ rest)).takeWhile
        (·.head? ≠ some '\x7d') =
      (declaration.members.flatMap (·.lines declaration.representation)).map unindented := by
  obtain ⟨closing, after, hclosing, hbrace⟩ := declaration.closingLines_eq_cons
  rw [behindOpening_lines hcomment, hclosing, List.cons_append, List.map_cons,
    List.takeWhile_append_of_pos (by simpa using head?_of_mem_members hmembers),
    List.takeWhile_cons_of_neg (by simp [hbrace]), List.append_nil]

/-- From the first brace behind its opening line on a declaration is closed. -/
theorem dropWhile_behindOpening (hcomment : ∀ line ∈ declaration.comment, IsRemark line)
    (hmembers : ∀ member ∈ declaration.members, member.Readable) (rest : List String) :
    (behindOpening declaration.name (declaration.lines ++ rest)).dropWhile
        (·.head? ≠ some '\x7d') =
      (declaration.closingLines ++ rest).map unindented := by
  obtain ⟨closing, after, hclosing, hbrace⟩ := declaration.closingLines_eq_cons
  rw [behindOpening_lines hcomment, hclosing, List.cons_append, List.map_cons,
    List.dropWhile_append_of_pos (by simpa using head?_of_mem_members hmembers),
    List.dropWhile_cons_of_neg (by simp [hbrace])]

/-- Reading a declaration gives its members with their values, whatever follows it. -/
theorem readMembers_lines (hcomment : ∀ line ∈ declaration.comment, IsRemark line)
    (hmembers : ∀ member ∈ declaration.members, member.Readable) (rest : List String) :
    readMembers declaration.name (declaration.lines ++ rest) =
      declaration.members.filterMap DeclaredMember.reading? := by
  show ((behindOpening declaration.name (declaration.lines ++ rest)).takeWhile
    (·.head? ≠ some '\x7d')).filterMap readMember? = _
  rw [takeWhile_behindOpening hcomment hmembers, filterMap_readMember?_lines _ hmembers]

end Declaration

end EnumBindings.Script
