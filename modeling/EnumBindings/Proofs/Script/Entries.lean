import EnumBindings.Proofs.Script.DeclarationReading

/-!
# Entries of declarations

An entry is what the line of a member says: a name and a literal as it is spelled. The types that
follow a constant object name its members once more. Reading the lines of a declaration gives the
entries of its members, and for a constant object the names in its types are those of its members.
-/

namespace EnumBindings.Script

/-- Reads a line that declares a member: its name and its literal as it is spelled. -/
def readSpelling? (line : List Char) : Option (String × String) :=
  (memberParts? line).bind fun parts =>
    (Value.ofLiteral? parts.2).map fun _ => (String.ofList parts.1, String.ofList parts.2)

/-- The entries of the declaration with a name, up to the first brace behind its opening line. -/
def readEntries (name : String) (lines : List String) : List (String × String) :=
  ((behindOpening name lines).takeWhile (·.head? ≠ some '\x7d')).filterMap readSpelling?

/-- Reads a line that names the type of a member of the object with a name. -/
def readAlias? (name : String) (line : List Char) : Option String :=
  let member := (line.drop "export type ".length).takeWhile Text.isIdentifierPart
  if Text.isIdentifier member ∧ line = "export type ".toList ++ member ++ " = typeof ".toList ++
      name.toList ++ ".".toList ++ member ++ ";".toList then
    some (String.ofList member)
  else none

/-- The line that opens the namespace for the types of members. -/
def typesOpening (name : String) : List Char :=
  "export namespace ".toList ++ name.toList ++ " \x7b".toList

/-- The names in the types of members, which stand in the namespace behind the declaration with a
name, up to the first brace. -/
def readAliases (name : String) (lines : List String) : List String :=
  (((((behindOpening name lines).dropWhile (·.head? ≠ some '\x7d')).dropWhile
    (· ≠ typesOpening name)).tail).takeWhile (·.head? ≠ some '\x7d')).filterMap (readAlias? name)

/-- The entry that the line of a member is to be read as. -/
def DeclaredMember.spelling? (member : DeclaredMember) : Option (String × String) :=
  (Value.ofLiteral? member.value.code.toList).map fun _ => (member.name, member.value.code)

/-- The lines of readable members are read as their entries. -/
theorem filterMap_readSpelling?_lines (representation : Representation)
    {members : List DeclaredMember} (hmembers : ∀ member ∈ members, member.Readable) :
    ((members.flatMap (·.lines representation)).map unindented).filterMap readSpelling? =
      members.filterMap DeclaredMember.spelling? := by
  have hread := filterMap_memberParts?_lines representation (fun parts =>
    (Value.ofLiteral? parts.2).map fun _ => (String.ofList parts.1, String.ofList parts.2)) hmembers
  refine hread.trans (List.filterMap_congr fun member _ => ?_)
  rw [String.ofList_toList, String.ofList_toList, DeclaredMember.spelling?]

/-- The line for the type of a member has no indentation of its own. -/
theorem unindented_aliasLine (name member : String) :
    unindented (Representation.aliasLine name member) =
      "export type ".toList ++ (member.toList ++ (" = typeof ".toList ++ (name.toList ++
        (".".toList ++ (member.toList ++ ";".toList))))) := by
  have htext : (Representation.aliasLine name member).toList =
      "export type ".toList ++ (member.toList ++ (" = typeof ".toList ++ (name.toList ++
        (".".toList ++ (member.toList ++ ";".toList))))) := by
    unfold Representation.aliasLine
    simp only [String.toList_append, List.append_assoc]
  rw [unindented_of_head? (by rw [htext]; simp), htext]

/-- The type of a member is read as the name of the member. -/
theorem readAlias?_aliasLine (name : String) {member : String}
    (hmember : Text.isIdentifier member.toList = true) :
    readAlias? name (unindented (Representation.aliasLine name member)) = some member := by
  have htake (rest : List Char) : (member.toList ++ (" = typeof ".toList ++ rest)).takeWhile
      Text.isIdentifierPart = member.toList := by
    have hspace : Text.isIdentifierPart ' ' = false := by decide
    rw [List.takeWhile_append_of_pos (isIdentifierPart_of_mem hmember),
      show " = typeof ".toList = ' ' :: "= typeof ".toList from rfl, List.cons_append,
      List.takeWhile_cons_of_neg (by simp [hspace]), List.append_nil]
  have hdrop (rest : List Char) :
      ("export type ".toList ++ rest).drop "export type ".length = rest :=
    List.drop_left
  simp only [readAlias?, unindented_aliasLine, hdrop, htake, hmember, List.append_assoc, and_self,
    if_true, String.ofList_toList]

/-- No type of a member begins with a brace. -/
theorem head?_aliasLine (name member : String) :
    (unindented (Representation.aliasLine name member)).head? ≠ some '\x7d' := by
  rw [unindented_aliasLine]
  simp

/-- The namespace for the types of members is opened by its opening line. -/
theorem unindented_typesOpening (name : String) :
    unindented ("export namespace " ++ name ++ " \x7b") = typesOpening name := by
  unfold typesOpening
  simp only [unindented, String.toList_append]
  simp

/-- The namespace is not opened by an empty line. -/
theorem typesOpening_ne_empty (name : String) : unindented "" ≠ typesOpening name := by
  unfold typesOpening
  simp [unindented]

/-- The namespace is not opened where the object ends. -/
theorem typesOpening_ne_end (name : String) :
    unindented "\x7d as const;" ≠ typesOpening name := by
  unfold typesOpening
  simp [unindented]

/-- The namespace is not opened by the type for the values of the object. -/
theorem typesOpening_ne_union (name : String) :
    unindented ("export type " ++ name ++ " = typeof " ++ name ++ "[keyof typeof " ++ name ++
      "];") ≠ typesOpening name := by
  unfold typesOpening
  simp only [unindented, String.toList_append]
  simp

/-- Where a constant object is closed, a namespace with the types of its members follows. -/
theorem map_unindented_closing (name : String) (members : List String) :
    ∃ before, (∀ line ∈ before, line ≠ typesOpening name) ∧
      (Representation.literal.closing name members).map unindented =
        before ++ typesOpening name ::
          ((members.map (Representation.aliasLine name)).map unindented ++ [['\x7d']]) := by
  -- The type for all values begins like the namespace: only what follows the export differs.
  refine ⟨["\x7d as const;", "", "export type " ++ name ++ " = typeof " ++ name ++
    "[keyof typeof " ++ name ++ "];", ""].map unindented, ?_, ?_⟩
  · simp only [List.map_cons, List.map_nil, List.mem_cons, List.not_mem_nil, or_false,
      forall_eq_or_imp, forall_eq]
    exact ⟨typesOpening_ne_end name, typesOpening_ne_empty name, typesOpening_ne_union name,
      typesOpening_ne_empty name⟩
  · rw [Representation.closing, List.map_append, List.map_append, map_unindented_indent,
      ← unindented_typesOpening]
    rfl

/-- What stands between an opening line and the first brace behind it is found. -/
theorem takeWhile_tail_dropWhile {before inside after : List (List Char)}
    {opening closing : List Char} (hbefore : ∀ line ∈ before, line ≠ opening)
    (hinside : ∀ line ∈ inside, line.head? ≠ some '\x7d') (hclosing : closing.head? = some '\x7d') :
    ((before ++ opening :: (inside ++ closing :: after)).dropWhile (· ≠ opening)).tail.takeWhile
      (·.head? ≠ some '\x7d') = inside := by
  rw [List.dropWhile_append_of_pos (by simpa using hbefore),
    List.dropWhile_cons_of_neg (by simp), List.tail_cons,
    List.takeWhile_append_of_pos (by simpa using hinside),
    List.takeWhile_cons_of_neg (by simp [hclosing]), List.append_nil]

/-- Behind a constant object, the names in the types are those of its members. -/
theorem readAliases_closing (name : String) {members : List String}
    (hmembers : ∀ member ∈ members, Text.isIdentifier member.toList = true)
    (rest : List (List Char)) :
    ((((Representation.literal.closing name members).map unindented ++ rest).dropWhile
        (· ≠ typesOpening name)).tail.takeWhile (·.head? ≠ some '\x7d')).filterMap
          (readAlias? name) = members := by
  obtain ⟨before, hbefore, hlines⟩ := map_unindented_closing name members
  have haliases : ∀ line ∈ (members.map (Representation.aliasLine name)).map unindented,
      line.head? ≠ some '\x7d' := by
    intro text htext
    obtain ⟨line, hline, rfl⟩ := List.mem_map.mp htext
    obtain ⟨member, _, rfl⟩ := List.mem_map.mp hline
    exact head?_aliasLine name member
  have hread : ((members.map (Representation.aliasLine name)).map unindented).filterMap
      (readAlias? name) = members := by
    rw [List.filterMap_map, List.filterMap_map]
    refine Eq.trans (b := members.filterMap some) (List.filterMap_congr ?_) List.filterMap_some
    intro member hmember
    rw [Function.comp_apply, Function.comp_apply,
      readAlias?_aliasLine name (hmembers member hmember)]
  rw [hlines, List.append_assoc, List.cons_append, List.append_assoc, List.singleton_append,
    takeWhile_tail_dropWhile hbefore haliases rfl, hread]

namespace Declaration

variable {declaration : Declaration}

/-- Reading a declaration gives the entries of its members, whatever follows it. -/
theorem readEntries_lines (hcomment : ∀ line ∈ declaration.comment, IsRemark line)
    (hmembers : ∀ member ∈ declaration.members, member.Readable) (rest : List String) :
    readEntries declaration.name (declaration.lines ++ rest) =
      declaration.members.filterMap DeclaredMember.spelling? := by
  rw [readEntries, takeWhile_behindOpening hcomment hmembers,
    filterMap_readSpelling?_lines _ hmembers]

/-- The types that follow a constant object name its members in their order. -/
theorem readAliases_lines (hliteral : declaration.representation = .literal)
    (hcomment : ∀ line ∈ declaration.comment, IsRemark line)
    (hmembers : ∀ member ∈ declaration.members, member.Readable) (rest : List String) :
    readAliases declaration.name (declaration.lines ++ rest) =
      declaration.members.map (·.name) := by
  have hnames : ∀ name ∈ declaration.members.map (·.name),
      Text.isIdentifier name.toList = true := by
    intro name hname
    obtain ⟨member, hmember, rfl⟩ := List.mem_map.mp hname
    exact (hmembers member hmember).name
  rw [readAliases, dropWhile_behindOpening hcomment hmembers, closingLines, hliteral,
    List.append_assoc, List.map_append, readAliases_closing declaration.name hnames]

end Declaration

end EnumBindings.Script
