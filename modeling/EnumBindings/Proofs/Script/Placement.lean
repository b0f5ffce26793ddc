import EnumBindings.Proofs.Script.Entries

/-!
# Where a declaration stands

A declaration stands at the top of its code or within a scope, and other code has to refer to it
accordingly. Both its name and its scope can be read from the first lines that are no remarks.
Reading the lines of a declaration gives the scope and the name that it has.
-/

namespace EnumBindings.Script

/-- The scope of a declaration, if it has one, and the name that it introduces there. -/
structure Placement where
  scope : Option String
  name : String
  deriving DecidableEq, Repr

/-- The expression for a declaration from outside its scope. -/
def Placement.reference (placement : Placement) : String :=
  match placement.scope with
  | none => placement.name
  | some scope => scope ++ "." ++ placement.name

/-- The expression for a member of a declaration. -/
def Placement.member (placement : Placement) (name : String) : String :=
  placement.reference ++ "." ++ name

/-- The scope that a line opens. -/
def readScope? (line : List Char) : Option String :=
  ((within? "export declare namespace ".toList " \x7b".toList line).or
    (within? "export namespace ".toList " \x7b".toList line)).map String.ofList

/-- The name of the declaration that a line opens. The sign of a constant object is looked for
first, since the name of one may begin like an enumeration. -/
def readDeclaredName? (line : List Char) : Option String :=
  ((within? "export const ".toList " = \x7b".toList line).or
    ((within? "export const enum ".toList " \x7b".toList line).or
      (within? "export enum ".toList " \x7b".toList line))).map String.ofList

/-- Whether a line stands in a block comment, as its first character tells. -/
def startsRemark (line : List Char) : Bool :=
  line.head? = some '/' ∨ line.head? = some '*'

/-- Where the first declaration in lines of code stands. -/
def readPlacement? (lines : List String) : Option Placement :=
  match (lines.map unindented).dropWhile startsRemark with
  | [] => none
  | first :: rest =>
    match readScope? first with
    | none => (readDeclaredName? first).map (⟨none, ·⟩)
    | some scope => (rest.head?.bind readDeclaredName?).map (⟨some scope, ·⟩)

/-- The line that opens a scope has no indentation of its own. -/
theorem unindented_scopeOpening (representation : Representation) (scope : String) :
    unindented (representation.scopeOpening scope) =
      (representation.scopeOpening scope).toList := by
  refine unindented_of_head? ?_
  unfold Representation.scopeOpening
  cases representation <;> simp only [String.toList_append] <;> simp

/-- The line that opens a declaration has no indentation of its own. -/
theorem unindented_declarationOpening (representation : Representation) (name : String) :
    unindented (representation.declarationOpening name) =
      (representation.declarationOpening name).toList := by
  refine unindented_of_head? ?_
  unfold Representation.declarationOpening
  cases representation with
  | native erased => cases erased <;> simp only [String.toList_append] <;> simp
  | literal => simp only [String.toList_append]; simp

/-- In every representation the scope is read from the line that opens it. -/
theorem readScope?_scopeOpening (representation : Representation) (scope : String) :
    readScope? (unindented (representation.scopeOpening scope)) = some scope := by
  rw [unindented_scopeOpening]
  cases representation with
  | native erased =>
    have htext : ((Representation.native erased).scopeOpening scope).toList =
        "export declare namespace ".toList ++ scope.toList ++ " \x7b".toList := by
      unfold Representation.scopeOpening
      simp only [String.toList_append]
    rw [htext, readScope?, within?_append, Option.some_or, Option.map_some, String.ofList_toList]
  | literal =>
    have htext : (Representation.literal.scopeOpening scope).toList =
        "export namespace ".toList ++ scope.toList ++ " \x7b".toList := by
      unfold Representation.scopeOpening
      simp only [String.toList_append]
    have hdeclare : within? "export declare namespace ".toList " \x7b".toList
        ("export namespace ".toList ++ scope.toList ++ " \x7b".toList) = none := rfl
    rw [htext, readScope?, hdeclare, within?_append, Option.none_or, Option.map_some,
      String.ofList_toList]

/-- In no representation a declaration is opened like a scope. -/
theorem readScope?_declarationOpening (representation : Representation) (name : String) :
    readScope? (unindented (representation.declarationOpening name)) = none := by
  rw [unindented_declarationOpening]
  unfold Representation.declarationOpening
  cases representation with
  | native erased => cases erased <;> simp only [String.toList_append] <;> rfl
  | literal => simp only [String.toList_append]; rfl

/-- An enumeration is not opened like a constant object, as its name has no sign of equality. -/
theorem within?_enum_eq_none {keyword : List Char} (hkeyword : '=' ∉ keyword) {name : List Char}
    (hname : '=' ∉ name) :
    within? "export const ".toList " = \x7b".toList
      ("export const ".toList ++ (keyword ++ name ++ " \x7b".toList)) = none := by
  have hprefix : ("export const ".toList ++ (keyword ++ name ++ " \x7b".toList)).dropPrefix?
      "export const ".toList = some (keyword ++ name ++ " \x7b".toList) :=
    List.dropPrefix?_append_of_beq _ BEq.rfl
  rw [within?, hprefix, Option.bind_some]
  cases hsuffix : (keyword ++ name ++ " \x7b".toList).dropSuffix? " = \x7b".toList with
  | none => rfl
  | some inner =>
    obtain ⟨found, hsplit, hfound⟩ := List.dropSuffix?_eq_some_iff.mp hsuffix
    have hend : " = \x7b".toList = " =".toList ++ " \x7b".toList := by decide
    rw [eq_of_beq hfound, hend, ← List.append_assoc] at hsplit
    have hmem : '=' ∈ keyword ++ name := by
      rw [List.append_cancel_right hsplit]
      simp
    exact absurd hmem (by simp [hkeyword, hname])

/-- In every representation the name is read from the line that opens the declaration. -/
theorem readDeclaredName?_declarationOpening (representation : Representation) {name : String}
    (hname : '=' ∉ name.toList) :
    readDeclaredName? (unindented (representation.declarationOpening name)) = some name := by
  rw [unindented_declarationOpening]
  unfold Representation.declarationOpening
  cases representation with
  | native erased =>
    cases erased with
    | true =>
      have hkeyword : '=' ∉ "enum ".toList := by decide
      have hobject : within? "export const ".toList " = \x7b".toList
          ("export const enum ".toList ++ name.toList ++ " \x7b".toList) = none :=
        within?_enum_eq_none hkeyword hname
      simp only [String.toList_append, readDeclaredName?, hobject, within?_append, Option.none_or,
        Option.some_or, Option.map_some, String.ofList_toList]
    | false =>
      have hobject : within? "export const ".toList " = \x7b".toList
          ("export enum ".toList ++ name.toList ++ " \x7b".toList) = none := rfl
      have herased : within? "export const enum ".toList " \x7b".toList
          ("export enum ".toList ++ name.toList ++ " \x7b".toList) = none := rfl
      simp only [String.toList_append, readDeclaredName?, hobject, herased, within?_append,
        Option.none_or, Option.map_some, String.ofList_toList]
  | literal =>
    simp only [String.toList_append, readDeclaredName?, within?_append, Option.some_or,
      Option.map_some, String.ofList_toList]

namespace Declaration

variable {declaration : Declaration}

/-- What opens a scope or a declaration is no remark. -/
theorem head?_opening (representation : Representation) (name : String) :
    (unindented (representation.scopeOpening name)).head? = some 'e' ∧
      (unindented (representation.declarationOpening name)).head? = some 'e' := by
  rw [unindented_scopeOpening, unindented_declarationOpening]
  unfold Representation.scopeOpening Representation.declarationOpening
  cases representation with
  | native erased => cases erased <;> simp only [String.toList_append] <;> exact ⟨rfl, rfl⟩
  | literal => simp only [String.toList_append]; exact ⟨rfl, rfl⟩

/-- Reading a declaration gives its placement, whatever follows it. -/
theorem readPlacement?_lines (hcomment : ∀ line ∈ declaration.comment, IsRemark line)
    (hname : '=' ∉ declaration.name.toList) (rest : List String) :
    readPlacement? (declaration.lines ++ rest) = some ⟨declaration.scope, declaration.name⟩ := by
  have hremarks : ∀ line ∈ declaration.comment.map unindented, startsRemark line = true := by
    intro text htext
    obtain ⟨line, hline, rfl⟩ := List.mem_map.mp htext
    exact decide_eq_true (hcomment line hline)
  have hscope (scope : String) := (head?_opening declaration.representation scope).1
  have hopening := (head?_opening declaration.representation declaration.name).2
  have hread := readDeclaredName?_declarationOpening declaration.representation hname
  unfold readPlacement?
  rw [List.map_append, map_unindented_lines, leadLines]
  cases hcase : declaration.scope with
  | none =>
    rw [List.append_nil, List.append_assoc, List.dropWhile_append_of_pos hremarks,
      List.cons_append, List.dropWhile_cons_of_neg (by simp [startsRemark, hopening])]
    simp only [readScope?_declarationOpening, hread, Option.map_some]
  | some scope =>
    rw [List.map_append, List.map_singleton, List.append_assoc, List.append_assoc,
      List.dropWhile_append_of_pos hremarks, List.singleton_append, List.cons_append,
      List.dropWhile_cons_of_neg (by simp [startsRemark, hscope])]
    simp only [readScope?_scopeOpening, List.head?_cons, Option.bind_some, hread, Option.map_some]

end Declaration

end EnumBindings.Script
