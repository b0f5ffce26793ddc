import EnumBindings.Proofs.Comment.Block
import EnumBindings.Proofs.Comment.Cleaning
import EnumBindings.Proofs.Script.Unbroken

/-!
# Removing documentation blocks

A reader of generated code may drop every documentation block: from a line that opens one up to the
first line that ends with a closer, which may be the same. Whatever a comment says, its block opens
with its first line and is closed by its last line and no line before it. The whole block of a
comment is dropped, however far it is indented, and nothing behind it.
-/

namespace EnumBindings.Comment

open Script

/-- Whether a line opens a block. -/
def opensBlock (line : String) : Bool :=
  "/**".toList.isPrefixOf (unindented line)

/-- Whether a line closes the block that it stands in. -/
def closesBlock (line : String) : Bool :=
  "*/".toList.isSuffixOf line.toList

/-- The lines outside of blocks, given whether the first line stands in a block already. -/
def withoutBlocks (inside : Bool) : List String → List String
  | [] => []
  | line :: rest =>
    if inside || opensBlock line then withoutBlocks (!closesBlock line) rest
    else line :: withoutBlocks false rest

/-- Whether what follows some lines stands in a block. -/
def insideBehind (inside : Bool) : List String → Bool
  | [] => inside
  | line :: rest => insideBehind ((inside || opensBlock line) && !closesBlock line) rest

/-- Lines that consist of some code and of whole blocks in between. -/
structure Documents (lines code : List String) : Prop where
  kept : withoutBlocks false lines = code
  closed : insideBehind false lines = false

theorem withoutBlocks_append (inside : Bool) (first second : List String) :
    withoutBlocks inside (first ++ second) =
      withoutBlocks inside first ++ withoutBlocks (insideBehind inside first) second := by
  induction first generalizing inside with
  | nil => rfl
  | cons line rest ih =>
    rw [List.cons_append, withoutBlocks, withoutBlocks, insideBehind]
    cases hinside : inside || opensBlock line with
    | true => simpa using ih _
    | false => simpa using ih false

theorem insideBehind_append (inside : Bool) (first second : List String) :
    insideBehind inside (first ++ second) = insideBehind (insideBehind inside first) second := by
  induction first generalizing inside with
  | nil => rfl
  | cons line rest ih => exact ih _

/-- Indentation does not open a block. -/
@[simp] theorem opensBlock_indentLine (level : Int) (line : String) :
    opensBlock (indentLine level line) = opensBlock line := by
  unfold opensBlock
  rw [unindented_indentLine]

/-- Spaces before a line do not close a block, not even together with the line. -/
@[simp] theorem closesBlock_indentLine (level : Int) (line : String) :
    closesBlock (indentLine level line) = closesBlock line := by
  unfold indentLine
  split
  · rfl
  · have hstar : '*' ∉ (indentation level).toList := fun hmem =>
      absurd (eq_space_of_mem_indentation hmem) (by decide)
    unfold closesBlock
    rw [Bool.eq_iff_iff, List.isSuffixOf_iff_suffix, List.isSuffixOf_iff_suffix,
      String.toList_append]
    constructor
    · rintro ⟨before, hbefore⟩
      rcases List.append_eq_append_iff.mp hbefore with ⟨rest, hindent, hcloser⟩ | ⟨rest, _, hline⟩
      · cases rest with
        | nil => exact ⟨[], hcloser⟩
        | cons first rest =>
          have hfirst : '*' = first := (List.cons.inj hcloser).1
          rw [hindent, ← hfirst] at hstar
          simp at hstar
      · exact ⟨rest, hline.symm⟩
    · intro hsuffix
      exact hsuffix.trans (List.suffix_append _ _)

theorem withoutBlocks_indent (level : Int) (inside : Bool) (lines : List String) :
    withoutBlocks inside (indent level lines) = indent level (withoutBlocks inside lines) := by
  induction lines generalizing inside with
  | nil => rfl
  | cons line rest ih =>
    show withoutBlocks inside (indentLine level line :: indent level rest) = _
    rw [withoutBlocks, withoutBlocks, opensBlock_indentLine, closesBlock_indentLine, ih, ih]
    split <;> rfl

theorem insideBehind_indent (level : Int) (inside : Bool) (lines : List String) :
    insideBehind inside (indent level lines) = insideBehind inside lines := by
  induction lines generalizing inside with
  | nil => rfl
  | cons line rest ih =>
    show insideBehind inside (indentLine level line :: indent level rest) = _
    rw [insideBehind, insideBehind, opensBlock_indentLine, closesBlock_indentLine, ih]

/-- A line that does not begin with a slash opens no block. -/
theorem opensBlock_of_head? {line : String} (hline : (unindented line).head? ≠ some '/') :
    opensBlock line = false := by
  rw [opensBlock, Bool.eq_false_iff, Ne, List.isPrefixOf_iff_prefix]
  rintro ⟨rest, hrest⟩
  exact hline (by rw [← hrest]; rfl)

namespace Documents

variable {lines code : List String}

theorem append {otherLines otherCode : List String} (hfirst : Documents lines code)
    (hsecond : Documents otherLines otherCode) :
    Documents (lines ++ otherLines) (code ++ otherCode) where
  kept := by rw [withoutBlocks_append, hfirst.kept, hfirst.closed, hsecond.kept]
  closed := by rw [insideBehind_append, hfirst.closed, hsecond.closed]

/-- Code that opens no block documents itself. -/
theorem of_plain (hplain : ∀ line ∈ lines, opensBlock line = false) : Documents lines lines := by
  induction lines with
  | nil => exact ⟨rfl, rfl⟩
  | cons line rest ih =>
    have hline := hplain line List.mem_cons_self
    have hrest := ih fun other hother => hplain other (List.mem_cons_of_mem _ hother)
    constructor
    · rw [withoutBlocks, hline, Bool.or_self, if_neg (by decide), hrest.kept]
    · rw [insideBehind, hline, Bool.or_self, Bool.false_and, hrest.closed]

theorem flatMap {α : Type} {items : List α} {linesOf codeOf : α → List String}
    (hitems : ∀ item ∈ items, Documents (linesOf item) (codeOf item)) :
    Documents (items.flatMap linesOf) (items.flatMap codeOf) := by
  induction items with
  | nil => exact ⟨rfl, rfl⟩
  | cons item rest ih =>
    rw [List.flatMap_cons, List.flatMap_cons]
    exact (hitems item List.mem_cons_self).append
      (ih fun other hother => hitems other (List.mem_cons_of_mem _ hother))

theorem indent (hlines : Documents lines code) (level : Int) :
    Documents (Script.indent level lines) (Script.indent level code) where
  kept := by rw [withoutBlocks_indent, hlines.kept]
  closed := by rw [insideBehind_indent, hlines.closed]

end Documents

/-- A closer stands somewhere in a text. -/
def HasCloser (text : List Char) : Prop :=
  "*/".toList <:+: text

theorem closer_prefix_iff {c : Char} {text : List Char} :
    "*/".toList <+: c :: text ↔ c = '*' ∧ text.head? = some '/' := by
  show ['*', '/'] <+: c :: text ↔ _
  cases text <;> simp [List.cons_prefix_cons, eq_comm]

theorem hasCloser_cons_iff {c : Char} {text : List Char} :
    HasCloser (c :: text) ↔ c = '*' ∧ text.head? = some '/' ∨ HasCloser text := by
  rw [HasCloser, List.infix_cons_iff, closer_prefix_iff, HasCloser]

/-- Where two texts meet, a closer arises only if the first ends with a star. -/
theorem HasCloser.of_append {left right : List Char} (hleft : ¬HasCloser left)
    (hlast : left.getLast? ≠ some '*') (hcloser : HasCloser (left ++ right)) : HasCloser right := by
  induction left with
  | nil => exact hcloser
  | cons c left ih =>
    rw [hasCloser_cons_iff, not_or] at hleft
    rw [List.cons_append, hasCloser_cons_iff] at hcloser
    rcases hcloser with ⟨rfl, hhead⟩ | hcloser
    · cases left with
      | nil => exact absurd rfl hlast
      | cons d left => exact absurd ⟨rfl, hhead⟩ hleft.1
    · refine ih hleft.2 ?_ hcloser
      cases left with
      | nil => simp
      | cons d left => rwa [List.getLast?_cons_cons] at hlast

/-- Taking closers apart changes no first character. -/
theorem head?_partClosers (text : List Char) : (partClosers text).head? = text.head? := by
  fun_cases partClosers text <;> rfl

/-- No closer is left when closers have been taken apart. -/
theorem not_hasCloser_partClosers (text : List Char) : ¬HasCloser (partClosers text) := by
  fun_induction partClosers text with
  | case1 => simp [HasCloser]
  | case2 text ih =>
    rw [hasCloser_cons_iff, hasCloser_cons_iff, hasCloser_cons_iff]
    simpa using ih
  | case3 c text hnot ih =>
    rw [hasCloser_cons_iff, head?_partClosers, not_or]
    refine ⟨?_, ih⟩
    rintro ⟨rfl, hhead⟩
    obtain ⟨rest, rfl⟩ := List.head?_eq_some_iff.mp hhead
    exact hnot rest rfl rfl

/-- What stands before the first line of a comment: it neither has a closer nor makes one. -/
structure IsLead (lead : String) : Prop where
  unbroken : Unbroken lead
  closer : ¬HasCloser lead.toList
  last : lead.toList.getLast? ≠ some '*'

/-- What a block says is made of single lines without closers. -/
theorem content_lines {comment : Option String} {deprecated : Bool} {lead : String}
    (hlead : IsLead lead) :
    ∀ line ∈ content comment deprecated lead, Unbroken line ∧ ¬HasCloser line.toList := by
  have hclean : ¬HasCloser (clean comment).toList := by
    cases comment with
    | none => simp [clean, HasCloser]
    | some comment => simpa [clean, cleanText] using not_hasCloser_partClosers _
  have hpiece : ∀ piece ∈ Text.pieces '\n' (clean comment).toList,
      '\n' ∉ piece ∧ ¬HasCloser piece := by
    intro piece hpiece
    refine ⟨Text.notMem_of_mem_pieces hpiece, fun hcloser => hclean ?_⟩
    exact hcloser.trans (Text.infix_of_mem_pieces hpiece)
  intro line hline
  rcases mem_content hline with rfl | ⟨piece, hmem, hline⟩
  · exact ⟨by decide, by simp [HasCloser, List.infix_cons_iff]⟩
  · obtain ⟨hbreak, hcloser⟩ := hpiece piece hmem
    rcases hline with rfl | rfl
    · refine ⟨unbroken_append.mpr ⟨hlead.unbroken, unbroken_ofList.mpr hbreak⟩, ?_⟩
      rw [String.toList_append, String.toList_ofList]
      exact fun h => hcloser (h.of_append hlead.closer hlead.last)
    · exact ⟨unbroken_ofList.mpr hbreak, by rwa [String.toList_ofList]⟩

/-- A line with a star before it is a single line without a closer. -/
theorem starred_line {line : String} (hbreak : Unbroken line) (hcloser : ¬HasCloser line.toList) :
    Unbroken (starred line) ∧ ¬HasCloser (starred line).toList := by
  have htext : (starred line).toList <+: " * ".toList ++ line.toList := by
    rw [starred, String.toList_ofList, ← String.toList_append]
    exact Text.trimEnd_prefix_self _
  have hmargin : ¬HasCloser " * ".toList := by simp [HasCloser, List.infix_cons_iff]
  constructor
  · intro hmem
    rcases List.mem_append.mp (htext.subset hmem) with hmem | hmem
    · exact absurd hmem (by decide)
    · exact hbreak hmem
  · intro hmem
    have hjoined : HasCloser (" * ".toList ++ line.toList) := hmem.trans htext.isInfix
    exact hcloser (hjoined.of_append hmargin (by decide))

/-- A line without a closer closes no block. -/
theorem closesBlock_of_not_hasCloser {line : String} (hline : ¬HasCloser line.toList) :
    closesBlock line = false := by
  rw [closesBlock, Bool.eq_false_iff, Ne, List.isSuffixOf_iff_suffix]
  exact fun hsuffix => hline hsuffix.isInfix

/-- Inside of a block, lines that do not close it are dropped. -/
theorem inside_of_not_closesBlock {lines : List String}
    (hlines : ∀ line ∈ lines, closesBlock line = false) :
    withoutBlocks true lines = [] ∧ insideBehind true lines = true := by
  induction lines with
  | nil => exact ⟨rfl, rfl⟩
  | cons line rest ih =>
    have hline := hlines line List.mem_cons_self
    have hrest := ih fun other hother => hlines other (List.mem_cons_of_mem _ hother)
    rw [withoutBlocks, insideBehind, Bool.true_or, hline]
    simpa using hrest

/-- The block of a comment is dropped as a whole, whatever the comment says. -/
theorem documents_block {comment : Option String} {deprecated : Bool} {lead : String}
    (hlead : IsLead lead) : Documents (block comment deprecated lead) [] := by
  have hlines := @content_lines comment deprecated lead hlead
  unfold block
  match hcontent : content comment deprecated lead with
  | [] => exact ⟨rfl, rfl⟩
  | [only] =>
    have hopens : opensBlock ("/** " ++ only ++ " */") = true := by
      rw [opensBlock, List.isPrefixOf_iff_prefix, unindented_of_head? (by simp)]
      simp
    have hcloses : closesBlock ("/** " ++ only ++ " */") = true := by
      rw [closesBlock, List.isSuffixOf_iff_suffix, String.toList_append]
      exact (List.suffix_append [' '] _).trans (List.suffix_append _ _)
    have hwhole : enclose [only] = ["/** " ++ only ++ " */"] := rfl
    rw [hwhole]
    constructor
    · rw [withoutBlocks, hopens, Bool.or_true, if_pos rfl, hcloses]
      rfl
    · rw [insideBehind, hcloses]
      simp [insideBehind]
  | first :: second :: rest =>
    have hwhole : enclose (first :: second :: rest) =
        ["/**"] ++ (first :: second :: rest).map starred ++ [" */"] := enclose_cons_cons ..
    have hinside : ∀ line ∈ (first :: second :: rest).map starred, closesBlock line = false := by
      intro line hline
      obtain ⟨said, hsaid, rfl⟩ := List.mem_map.mp hline
      rw [← hcontent] at hsaid
      obtain ⟨hbreak, hcloser⟩ := hlines said hsaid
      exact closesBlock_of_not_hasCloser (starred_line hbreak hcloser).2
    obtain ⟨hdropped, hstill⟩ := inside_of_not_closesBlock hinside
    have hopening : withoutBlocks false ["/**"] = [] ∧ insideBehind false ["/**"] = true := by
      decide
    have hclosing : withoutBlocks true [" */"] = [] ∧ insideBehind true [" */"] = false := by
      decide
    rw [hwhole]
    constructor
    · rw [withoutBlocks_append, withoutBlocks_append, insideBehind_append, hopening.1, hopening.2,
        hdropped, hstill, hclosing.1]
      rfl
    · rw [insideBehind_append, insideBehind_append, hopening.2, hstill, hclosing.2]

/-- Each line of a block is a single line. -/
theorem unbroken_of_mem_block {comment : Option String} {deprecated : Bool} {lead : String}
    (hlead : IsLead lead) : ∀ line ∈ block comment deprecated lead, Unbroken line := by
  intro line hline
  rcases mem_block hline with rfl | rfl | ⟨said, hsaid, hline⟩
  · decide
  · decide
  · obtain ⟨hbreak, hcloser⟩ := content_lines hlead said hsaid
    rcases hline with rfl | rfl
    · rw [unbroken_append, unbroken_append]
      exact ⟨⟨by decide, hbreak⟩, by decide⟩
    · exact (starred_line hbreak hcloser).1

end EnumBindings.Comment
