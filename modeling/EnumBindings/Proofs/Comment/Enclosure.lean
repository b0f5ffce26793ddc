import EnumBindings.Proofs.Comment.Removal
import Mathlib.Data.List.Infix

/-!
# Blocks that are one comment

A comment mark could be closed too early by what a comment says, by what stands before it, or where
the two meet. Whatever a comment says, its block is empty or one comment. It opens with a comment
mark, it is closed once, at its very end, and none of its lines is broken by any character.
Indentation does not change where it is closed.
-/

namespace EnumBindings.Comment

open Script

/-- How often a text occurs in another, counted by the places where it begins. -/
def occurrences (part text : List Char) : Nat :=
  text.tails.countP (part.isPrefixOf ·)

/-- A text that has one closer, which is its end. -/
structure ClosedAtEnd (text : List Char) : Prop where
  ends : "*/".toList <:+ text
  once : occurrences "*/".toList text = 1

/-- Lines that are one comment: none of them is broken, the first opens the comment and the last
closes it, however far the lines are indented. -/
structure IsOneComment (lines : List String) : Prop where
  singleLines : ∀ line ∈ lines, SingleLine line.toList
  opens : "/**".toList <+: (joinLines lines).toList
  closed : ClosedAtEnd (joinLines lines).toList
  closedIndented : ∀ level, ClosedAtEnd (joinLines (indent level lines)).toList

theorem occurrences_closer_cons (c : Char) (text : List Char) :
    occurrences "*/".toList (c :: text) =
      occurrences "*/".toList text + if c = '*' ∧ text.head? = some '/' then 1 else 0 := by
  rw [occurrences, List.tails_cons, List.countP_cons, occurrences]
  simp only [List.isPrefixOf_iff_prefix, closer_prefix_iff]

/-- A closer behind a text without closers is the only one. -/
theorem closedAtEnd_append_closer {text : List Char} (htext : ¬HasCloser text) :
    ClosedAtEnd (text ++ "*/".toList) where
  ends := List.suffix_append _ _
  once := by
    induction text with
    | nil => decide
    | cons c text ih =>
      rw [hasCloser_cons_iff, not_or] at htext
      rw [List.cons_append, occurrences_closer_cons, ih htext.2, if_neg]
      rintro ⟨rfl, hhead⟩
      cases text with
      | nil => exact absurd hhead (by decide)
      | cons d text => exact htext.1 ⟨rfl, hhead⟩

/-- A closer does not reach over other characters than its own. -/
theorem hasCloser_append_cons {c : Char} (hstar : c ≠ '*') (hslash : c ≠ '/')
    {left right : List Char} (hleft : ¬HasCloser left) (hright : ¬HasCloser right) :
    ¬HasCloser (left ++ c :: right) := by
  have hrest : ¬HasCloser (c :: right) := by
    rw [hasCloser_cons_iff, not_or]
    exact ⟨fun h => hstar h.1, hright⟩
  induction left with
  | nil => exact hrest
  | cons d left ih =>
    rw [hasCloser_cons_iff, not_or] at hleft
    rw [List.cons_append, hasCloser_cons_iff, not_or]
    refine ⟨?_, ih hleft.2⟩
    rintro ⟨rfl, hhead⟩
    cases left with
    | nil => exact hslash (Option.some.inj hhead)
    | cons e left => exact hleft.1 ⟨rfl, hhead⟩

/-- Lines without closers have none together. -/
theorem not_hasCloser_joinLines {lines : List String}
    (hlines : ∀ line ∈ lines, ¬HasCloser line.toList) : ¬HasCloser (joinLines lines).toList := by
  unfold joinLines
  induction lines with
  | nil => simp [HasCloser]
  | cons first rest ih =>
    have hfirst := hlines first List.mem_cons_self
    have hrest := ih fun line hline => hlines line (List.mem_cons_of_mem _ hline)
    cases rest with
    | nil => rwa [String.intercalate_singleton]
    | cons second rest =>
      rw [String.intercalate_cons_cons, String.append_assoc, String.toList_append,
        String.toList_append]
      exact hasCloser_append_cons (by decide) (by decide) hfirst hrest

/-- Lines of which only the last has a closer, at its end. -/
inductive OnlyLastCloses : List String → Prop
  | intro {before : List String} {last : String} (hbefore : ∀ line ∈ before, ¬HasCloser line.toList)
      (hlast : ¬HasCloser last.toList) : OnlyLastCloses (before ++ [last ++ "*/"])

/-- Indentation makes no closer. -/
theorem not_hasCloser_indentation_append (level : Int) {line : String}
    (hline : ¬HasCloser line.toList) : ¬HasCloser (indentation level ++ line).toList := by
  have hspaces : ∀ c ∈ (indentation level).toList, c = ' ' := fun c => eq_space_of_mem_indentation
  rw [String.toList_append]
  generalize (indentation level).toList = spaces at hspaces
  induction spaces with
  | nil => exact hline
  | cons c spaces ih =>
    rw [List.forall_mem_cons] at hspaces
    rw [List.cons_append, hasCloser_cons_iff, hspaces.1, not_or]
    exact ⟨fun h => absurd h.1 (by decide), ih hspaces.2⟩

namespace OnlyLastCloses

variable {lines : List String}

/-- Indenting the lines changes nothing about their closers. -/
theorem indent (hlines : OnlyLastCloses lines) (level : Int) :
    OnlyLastCloses (Script.indent level lines) := by
  cases hlines with
  | @intro before last hbefore hlast =>
    have hwhole : indentLine level (last ++ "*/") = indentation level ++ last ++ "*/" := by
      rw [indentLine, if_neg (by simp), String.append_assoc]
    rw [Script.indent, List.map_append, List.map_singleton, hwhole]
    refine intro ?_ (not_hasCloser_indentation_append level hlast)
    rw [List.forall_mem_map]
    intro line hline
    unfold indentLine
    split
    · exact hbefore line hline
    · exact not_hasCloser_indentation_append level (hbefore line hline)

/-- Joined, the lines are closed at their end. -/
theorem closedAtEnd (hlines : OnlyLastCloses lines) : ClosedAtEnd (joinLines lines).toList := by
  cases hlines with
  | @intro before last hbefore hlast =>
    have hjoined : (joinLines (before ++ [last ++ "*/"])).toList =
        (joinLines (before ++ [last])).toList ++ "*/".toList := by
      unfold joinLines
      cases before with
      | nil => simp
      | cons first rest =>
        rw [String.intercalate_append_of_ne_nil (by simp) (by simp),
          String.intercalate_append_of_ne_nil (by simp) (by simp)]
        simp
    rw [hjoined]
    refine closedAtEnd_append_closer (not_hasCloser_joinLines ?_)
    rw [List.forall_mem_append]
    exact ⟨hbefore, List.forall_mem_singleton.mpr hlast⟩

end OnlyLastCloses

/-- The cleaned text of a comment has line feeds as its only line breaks. -/
theorem singleLine_of_mem_pieces_clean {comment : Option String} {piece : List Char}
    (hpiece : piece ∈ Text.pieces '\n' (clean comment).toList) : SingleLine piece := by
  intro c hc
  have hlineFeed : c ≠ '\n' := fun h => Text.notMem_of_mem_pieces hpiece (h ▸ hc)
  have hmem : c ∈ (clean comment).toList := (Text.infix_of_mem_pieces hpiece).subset hc
  cases comment with
  | none => cases hmem
  | some comment =>
    rw [clean, String.toList_ofList] at hmem
    exact Bool.eq_false_iff.mpr fun hbreak => hlineFeed (eq_lineFeed_of_mem_cleanText hmem hbreak)

/-- No line of a block is broken, if the lead is not. -/
theorem singleLine_of_mem_block {comment : Option String} {deprecated : Bool} {lead : String}
    (hlead : SingleLine lead.toList) :
    ∀ line ∈ block comment deprecated lead, SingleLine line.toList := by
  have hcontent : ∀ said ∈ content comment deprecated lead, SingleLine said.toList := by
    intro said hsaid
    rcases mem_content hsaid with rfl | ⟨piece, hpiece, rfl | rfl⟩
    · decide
    · rw [String.toList_append, String.toList_ofList]
      exact hlead.append (singleLine_of_mem_pieces_clean hpiece)
    · rw [String.toList_ofList]
      exact singleLine_of_mem_pieces_clean hpiece
  intro line hline
  rcases mem_block hline with rfl | rfl | ⟨said, hsaid, rfl | rfl⟩
  · decide
  · decide
  · rw [String.toList_append, String.toList_append]
    exact (SingleLine.append (by decide) (hcontent said hsaid)).append (by decide)
  · have hmargin : SingleLine " * ".toList := by decide
    rw [starred, String.toList_ofList, String.toList_append]
    exact (hmargin.append (hcontent said hsaid)).of_subset (Text.trimEnd_prefix_self _).subset

/-- A block is empty exactly if the comment says nothing and nothing is deprecated. -/
theorem block_eq_nil_iff {comment : Option String} {deprecated : Bool} {lead : String} :
    block comment deprecated lead = [] ↔ clean comment = "" ∧ deprecated = false := by
  have henclose (lines : List String) : enclose lines = [] ↔ lines = [] := by
    cases lines with
    | nil => simp [enclose]
    | cons first rest => cases rest <;> simp [enclose]
  rw [block, henclose, content, List.append_eq_nil_iff]
  refine and_congr ?_ (by cases deprecated <;> simp)
  obtain ⟨first, rest, hpieces⟩ :=
    List.exists_cons_of_ne_nil (Text.pieces_ne_nil '\n' (clean comment).toList)
  rw [hpieces]
  by_cases hclean : clean comment = ""
  · simp [hclean]
  · simp [hclean]

/-- Only the last line of a block has a closer, at its end. -/
theorem onlyLastCloses_block {comment : Option String} {deprecated : Bool} {lead : String}
    (hlead : IsLead lead) (hblock : block comment deprecated lead ≠ []) :
    OnlyLastCloses (block comment deprecated lead) := by
  have hlines := @content_lines comment deprecated lead hlead
  unfold block at hblock ⊢
  generalize content comment deprecated lead = contents at hlines hblock
  cases contents with
  | nil => exact absurd rfl hblock
  | cons first rest =>
    cases rest with
    | nil =>
      have hfirst := (hlines first List.mem_cons_self).2
      have hopened : ¬HasCloser ("/** " ++ first ++ " ").toList := by
        rw [String.toList_append, String.toList_append]
        exact hasCloser_append_cons (by decide) (by decide)
          (fun h => hfirst (h.of_append (by simp [HasCloser, List.infix_cons_iff]) (by decide)))
          (by simp [HasCloser])
      have hwhole : enclose [first] = [] ++ ["/** " ++ first ++ " " ++ "*/"] := by
        rw [enclose, @String.append_assoc _ " " "*/"]
        rfl
      rw [hwhole]
      exact .intro (by simp) hopened
    | cons second rest =>
      rw [enclose_cons_cons]
      refine @OnlyLastCloses.intro _ " " ?_ (by simp [HasCloser, List.infix_cons_iff])
      rw [List.forall_mem_cons, List.forall_mem_map]
      refine ⟨by simp [HasCloser, List.infix_cons_iff], fun said hsaid => ?_⟩
      obtain ⟨hbreak, hcloser⟩ := hlines said hsaid
      exact (starred_line hbreak hcloser).2

/-- A block begins with a comment mark. -/
theorem opens_block {comment : Option String} {deprecated : Bool} {lead : String}
    (hblock : block comment deprecated lead ≠ []) :
    "/**".toList <+: (joinLines (block comment deprecated lead)).toList := by
  unfold block at hblock ⊢
  generalize content comment deprecated lead = contents at hblock
  cases contents with
  | nil => exact absurd rfl hblock
  | cons first rest =>
    cases rest with
    | nil => simp [enclose, joinLines]
    | cons second rest =>
      rw [enclose_cons_cons, joinLines, List.cons_append,
        String.intercalate_cons_of_ne_nil (by simp), String.append_assoc, String.toList_append]
      exact List.prefix_append _ _

/-- Every block is one comment, unless there is nothing to say. Neither the comment nor the lead
closes it early or breaks one of its lines, if the lead alone does not. -/
theorem block_isOneComment {lead : String} (hbreaks : SingleLine lead.toList)
    (hcloser : ¬HasCloser lead.toList) (hstar : lead.toList.getLast? ≠ some '*')
    (comment : Option String) (deprecated : Bool) :
    (block comment deprecated lead = [] ↔ clean comment = "" ∧ deprecated = false) ∧
      (block comment deprecated lead ≠ [] → IsOneComment (block comment deprecated lead)) := by
  have hlineFeed : Unbroken lead := fun hmem => absurd (hbreaks '\n' hmem) (by decide)
  refine ⟨block_eq_nil_iff, fun hblock => ?_⟩
  have hcloses := onlyLastCloses_block ⟨hlineFeed, hcloser, hstar⟩ hblock
  exact
    { singleLines := singleLine_of_mem_block hbreaks
      opens := opens_block hblock
      closed := hcloses.closedAtEnd
      closedIndented := fun level => (hcloses.indent level).closedAtEnd }

/-- Closers that overlap are taken apart, and a comment is cut at a line separator and a form
feed. -/
theorem block_isOneComment_overlapping :
    block (some "**//\u2028  */\x0c*") true "RED - " =
        ["/**", " * RED - ** //", " *   * /", " * *", " * @deprecated", " */"] ∧
      IsOneComment (block (some "**//\u2028  */\x0c*") true "RED - ") := by
  have hblock : block (some "**//\u2028  */\x0c*") true "RED - " =
      ["/**", " * RED - ** //", " *   * /", " * *", " * @deprecated", " */"] := by
    decide +kernel
  obtain ⟨_, hcomment⟩ := @block_isOneComment "RED - " (by decide)
    (by simp [HasCloser, List.infix_cons_iff]) (by decide) (some "**//\u2028  */\x0c*") true
  exact ⟨hblock, hcomment (by rw [hblock]; simp)⟩

end EnumBindings.Comment
