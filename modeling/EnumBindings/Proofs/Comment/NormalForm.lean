import EnumBindings.Proofs.Comment.Removal

/-!
# The normal form of comments

A comment is in normal form if its lines are broken by line feeds only and have no white space at
their ends, if it begins and ends with visible characters, and if nothing in it closes a block.
Cleaning brings every comment into normal form and changes white space only, and a comment that is
in normal form already is not changed at all.
-/

namespace EnumBindings.Comment

/-- A text without white space at its end. -/
def EndsVisibly (text : List Char) : Prop :=
  ∀ c ∈ text.getLast?, Text.isBlank c = false

/-- A text of lines without white space at their ends. -/
def LinesEndVisibly (text : List Char) : Prop :=
  ∀ line ∈ Text.pieces '\n' text, EndsVisibly line

/-- A comment in normal form. -/
structure IsNormal (text : List Char) : Prop where
  breaks : ∀ c ∈ text, Text.isLineBreak c = true → c = '\n'
  lines : LinesEndVisibly text
  closer : ¬HasCloser text
  first : ∀ c ∈ text.head?, Text.isBlank c = false
  last : EndsVisibly text

/-- A text begins with a separator, or is empty, if its first piece is empty. -/
theorem head?_pieces_eq_nil_iff {separator : Char} {text : List Char} :
    (Text.pieces separator text).head? = some [] ↔ ∀ c ∈ text.head?, c = separator := by
  cases text with
  | nil => simp [Text.pieces]
  | cons c text =>
    obtain ⟨piece, rest, hpieces⟩ :=
      List.exists_cons_of_ne_nil (Text.pieces_ne_nil separator text)
    rw [Text.pieces, hpieces]
    split
    · next hc => simp [hc]
    · next hc => simp [hc]

/-- A text ends with a separator, or is empty, if its last piece is empty. -/
theorem eq_of_getLast?_pieces {separator : Char} {text : List Char}
    (hlast : (Text.pieces separator text).getLast? = some []) :
    ∀ c ∈ text.getLast?, c = separator := by
  obtain ⟨front, hfront⟩ := List.getLast?_eq_some_iff.mp hlast
  intro c hc
  rw [← Text.intercalate_pieces separator text, hfront] at hc
  cases front with
  | nil => simp at hc
  | cons first front =>
    rw [List.cons_append, Text.intercalate_cons_eq_append, List.flatMap_append] at hc
    simpa [eq_comm] using hc

/-- A character in front of a text stands at the end of a line if the text is empty or begins with a
line feed. -/
theorem linesEndVisibly_cons_iff {c : Char} {text : List Char} :
    LinesEndVisibly (c :: text) ↔
      (Text.isBlank c = true → c = '\n' ∨ ∃ d ∈ text.head?, d ≠ '\n') ∧ LinesEndVisibly text := by
  obtain ⟨piece, rest, hpieces⟩ := List.exists_cons_of_ne_nil (Text.pieces_ne_nil '\n' text)
  have hempty : piece = [] ↔ ¬∃ d ∈ text.head?, d ≠ '\n' := by
    have hfirst := @head?_pieces_eq_nil_iff '\n' text
    simpa [hpieces] using hfirst
  unfold LinesEndVisibly
  rw [Text.pieces, hpieces]
  by_cases hc : c = '\n'
  · simp [hc, EndsVisibly]
  · have hjoined : EndsVisibly (c :: piece) ↔
        (Text.isBlank c = true → piece ≠ []) ∧ EndsVisibly piece := by
      cases piece with
      | nil => simp [EndsVisibly]
      | cons d piece => simp [EndsVisibly, List.getLast?_cons_cons]
    rw [if_neg hc]
    show (∀ line ∈ (c :: piece) :: rest, EndsVisibly line) ↔ _
    rw [List.forall_mem_cons, List.forall_mem_cons, hjoined, Ne, hempty, not_not, and_assoc]
    simp only [hc, false_or]

/-- Lines end visibly in what is left when a text is cut off in front. -/
theorem LinesEndVisibly.of_append_left {left right : List Char}
    (htext : LinesEndVisibly (left ++ right)) : LinesEndVisibly right := by
  induction left with
  | nil => exact htext
  | cons c left ih => exact ih (linesEndVisibly_cons_iff.mp htext).2

/-- Lines end visibly in what is left when a text is cut off behind a visible character. -/
theorem LinesEndVisibly.of_append_right {left right : List Char} (hlast : EndsVisibly left)
    (htext : LinesEndVisibly (left ++ right)) : LinesEndVisibly left := by
  induction left with
  | nil => simp [LinesEndVisibly, EndsVisibly, Text.pieces]
  | cons c left ih =>
    obtain ⟨hc, hrest⟩ := linesEndVisibly_cons_iff.mp htext
    rw [linesEndVisibly_cons_iff]
    cases left with
    | nil =>
      have hvisible : Text.isBlank c = false := hlast c rfl
      exact ⟨fun hblank => absurd hblank (by simp [hvisible]), ih (by simp [EndsVisibly]) hrest⟩
    | cons d left =>
      rw [EndsVisibly, List.getLast?_cons_cons] at hlast
      exact ⟨hc, ih hlast hrest⟩

/-- Taking closers apart changes no last character. -/
theorem getLast?_partClosers (text : List Char) : (partClosers text).getLast? = text.getLast? := by
  fun_induction partClosers text with
  | case1 => rfl
  | case2 text ih => simp [List.getLast?_cons, ih]
  | case3 c text _ ih => rw [List.getLast?_cons, List.getLast?_cons, ih]

/-- Closers are taken apart within lines. -/
theorem LinesEndVisibly.partClosers {text : List Char} (htext : LinesEndVisibly text) :
    LinesEndVisibly (partClosers text) := by
  fun_induction Comment.partClosers text with
  | case1 => exact htext
  | case2 text ih =>
    have hstar : Text.isBlank '*' = false := by decide
    have hslash : Text.isBlank '/' = false := by decide
    rw [linesEndVisibly_cons_iff, linesEndVisibly_cons_iff] at htext
    rw [linesEndVisibly_cons_iff, linesEndVisibly_cons_iff, linesEndVisibly_cons_iff]
    simpa [hstar, hslash] using ih htext.2.2
  | case3 c text _ ih =>
    rw [linesEndVisibly_cons_iff] at htext ⊢
    rw [head?_partClosers]
    exact ⟨htext.1, ih htext.2⟩

/-- Only white space is put into closers. -/
@[simp] theorem visible_partClosers (text : List Char) :
    Text.visible (partClosers text) = Text.visible text := by
  have hspace : Text.isBlank ' ' = true := by decide
  fun_induction partClosers text with
  | case1 => rfl
  | case2 text ih => simp [Text.visible_cons, hspace, ih]
  | case3 c text _ ih => rw [Text.visible_cons, Text.visible_cons, ih]

/-- A text without closers is left as it is. -/
theorem partClosers_of_not_hasCloser {text : List Char} (htext : ¬HasCloser text) :
    partClosers text = text := by
  fun_induction partClosers text with
  | case1 => rfl
  | case2 text ih => exact absurd (List.prefix_append "*/".toList text).isInfix htext
  | case3 c text _ ih =>
    rw [hasCloser_cons_iff, not_or] at htext
    rw [ih htext.2]

theorem EndsVisibly.of_suffix {text rest : List Char} (htext : EndsVisibly text)
    (hrest : rest <:+ text) : EndsVisibly rest := by
  obtain ⟨before, rfl⟩ := hrest
  intro c hc
  rw [Option.mem_def] at hc
  exact htext c (by rw [List.getLast?_append, hc]; rfl)

/-- Nothing is trimmed at the end exactly of a text that ends visibly. -/
theorem trimEnd_eq_self_iff {text : List Char} :
    Text.trimEnd text = text ↔ EndsVisibly text := by
  have hdrop : Text.trimEnd text = text.rdropWhile Text.isBlank := rfl
  rw [hdrop, List.rdropWhile_eq_self_iff, EndsVisibly]
  cases text with
  | nil => simp
  | cons c text => simp [List.getLast?_eq_some_getLast]

theorem endsVisibly_trimEnd (text : List Char) : EndsVisibly (Text.trimEnd text) := by
  have hagain : Text.trimEnd (Text.trimEnd text) = Text.trimEnd text :=
    List.rdropWhile_idempotent _ _
  exact trimEnd_eq_self_iff.mp hagain

/-- A trimmed text begins with a visible character. -/
theorem isBlank_of_mem_head?_trim {text : List Char} {c : Char} (hc : c ∈ (Text.trim text).head?) :
    Text.isBlank c = false := by
  obtain ⟨behind, hbehind⟩ := Text.trimEnd_prefix_self (Text.trimStart text)
  have hhead : (text.dropWhile Text.isBlank).head? = some c := by
    rw [Option.mem_def, Text.trim] at hc
    show (Text.trimStart text).head? = some c
    rw [← hbehind, List.head?_append, hc]
    rfl
  have hnot := List.head?_dropWhile_not Text.isBlank text
  rw [hhead] at hnot
  exact hnot

/-- The lines of a cleaned comment have no white space at their ends. -/
theorem endsVisibly_of_mem_cleanLines {comment line : List Char}
    (hline : line ∈ cleanLines comment) : EndsVisibly line := by
  obtain ⟨whole, hwhole, hsuffix⟩ := exists_suffix_of_mem_dedent hline
  obtain ⟨raw, _, rfl⟩ := List.mem_map.mp ((withoutEmptyEnds_infix_self _).subset hwhole)
  exact (endsVisibly_trimEnd raw).of_suffix hsuffix

/-- Joined, the lines of a cleaned comment still end visibly. -/
theorem linesEndVisibly_cleanLines (comment : List Char) :
    LinesEndVisibly (['\n'].intercalate (cleanLines comment)) := by
  by_cases hlines : cleanLines comment = []
  · simp [hlines, LinesEndVisibly, EndsVisibly, Text.pieces]
  · have hbreak : Text.isLineBreak '\n' = true := by decide
    have hfree : ∀ line ∈ cleanLines comment, '\n' ∉ line := by
      intro line hline hmem
      rw [singleLine_of_mem_cleanLines hline _ hmem] at hbreak
      cases hbreak
    rw [LinesEndVisibly, Text.pieces_intercalate hlines hfree]
    exact fun line => endsVisibly_of_mem_cleanLines

/-- A cleaned comment is in normal form. -/
theorem isNormal_cleanText (comment : List Char) : IsNormal (cleanText comment) where
  breaks c hc := eq_lineFeed_of_mem_cleanText hc
  lines := by
    obtain ⟨before, behind, _, _, htext⟩ :=
      Text.exists_eq_append_trim (['\n'].intercalate (cleanLines comment))
    have hlines := linesEndVisibly_cleanLines comment
    rw [htext, List.append_assoc] at hlines
    exact (hlines.of_append_left.of_append_right (endsVisibly_trimEnd _)).partClosers
  closer := not_hasCloser_partClosers _
  first c hc := by
    rw [cleanText, head?_partClosers] at hc
    exact isBlank_of_mem_head?_trim hc
  last c hc := by
    rw [cleanText, getLast?_partClosers] at hc
    exact endsVisibly_trimEnd _ c hc

/-- Cleaning a comment changes white space only. -/
theorem visible_cleanText (comment : List Char) :
    Text.visible (cleanText comment) = Text.visible comment := by
  have hends (lines : List (List Char)) :
      (withoutEmptyEnds lines).flatMap Text.visible = lines.flatMap Text.visible := by
    obtain ⟨before, behind, hbefore, hbehind, hlines⟩ :=
      Text.exists_eq_append_dropEnds (·.isEmpty) lines
    have hempty {dropped : List (List Char)} (hdropped : ∀ line ∈ dropped, line.isEmpty = true) :
        dropped.flatMap Text.visible = [] :=
      List.flatMap_eq_nil_iff.mpr fun line hline => by
        rw [List.isEmpty_iff.mp (hdropped line hline), Text.visible_nil]
    calc (withoutEmptyEnds lines).flatMap Text.visible
        = before.flatMap Text.visible ++ (withoutEmptyEnds lines).flatMap Text.visible ++
            behind.flatMap Text.visible := by
          rw [hempty hbefore, hempty hbehind, List.nil_append, List.append_nil]
      _ = (before ++ withoutEmptyEnds lines ++ behind).flatMap Text.visible := by
          rw [List.flatMap_append, List.flatMap_append]
      _ = lines.flatMap Text.visible := by
          conv_rhs => rw [hlines]
          rfl
  calc Text.visible (cleanText comment)
      = (cleanLines comment).flatMap Text.visible := by
        rw [cleanText, visible_partClosers, Text.visible_trim,
          Text.visible_intercalate (by decide)]
    _ = ((Text.lines comment).map Text.trimEnd).flatMap Text.visible := by
        rw [cleanLines, Text.flatMap_visible_dedent, hends]
    _ = (Text.lines comment).flatMap Text.visible := by
        rw [List.flatMap_map]
        simp only [Text.visible_trimEnd]
    _ = Text.visible comment := Text.flatMap_visible_lines comment

/-- A text that ends visibly and has no other line breaks is cut at the line feeds. -/
theorem lines_eq_pieces {text : List Char}
    (hbreaks : ∀ c ∈ text, Text.isLineBreak c = true → c = '\n') (hlast : EndsVisibly text)
    (hne : text ≠ []) : Text.lines text = Text.pieces '\n' text := by
  have htail {c : Char} {text : List Char} (hlast : EndsVisibly (c :: text)) : EndsVisibly text :=
    hlast.of_suffix (List.suffix_cons c text)
  fun_induction Text.lines text with
  | case1 => exact absurd rfl hne
  | case2 text ih => exact absurd (hbreaks '\r' List.mem_cons_self (by decide)) (by decide)
  | case3 c text _ hc ih =>
    obtain ⟨hfeed, hbehind⟩ := List.forall_mem_cons.mp hbreaks
    obtain rfl := hfeed hc
    have hrest : text ≠ [] := by
      rintro rfl
      exact absurd (hlast '\n' rfl) (by decide)
    rw [ih hbehind (htail hlast) hrest, Text.pieces, if_pos rfl]
  | case4 c text _ hc hlines ih =>
    have hfeed : c ≠ '\n' := fun h => hc (by rw [h]; decide)
    have hrest : text = [] := by
      by_contra hne
      have hpieces := ih (List.forall_mem_cons.mp hbreaks).2 (htail hlast) hne
      exact Text.pieces_ne_nil '\n' text (hpieces.symm.trans hlines)
    rw [hrest, Text.pieces, if_neg hfeed]
    rfl
  | case5 c text _ hc first rest hlines ih =>
    have hfeed : c ≠ '\n' := fun h => hc (by rw [h]; decide)
    have hrest : text ≠ [] := by
      rintro rfl
      cases hlines
    rw [ih (List.forall_mem_cons.mp hbreaks).2 (htail hlast) hrest] at hlines
    rw [Text.pieces, if_neg hfeed, hlines]

/-- No ends are dropped where the first and the last line have text. -/
theorem withoutEmptyEnds_eq_self {lines : List (List Char)} (hfirst : lines.head? ≠ some [])
    (hlast : lines.getLast? ≠ some []) : withoutEmptyEnds lines = lines := by
  have hstart : lines.dropWhile (·.isEmpty) = lines := by
    cases lines with
    | nil => rfl
    | cons first rest => exact List.dropWhile_cons_of_neg (by simpa using hfirst)
  show (lines.dropWhile (·.isEmpty)).rdropWhile (·.isEmpty) = lines
  rw [hstart, List.rdropWhile_eq_self_iff]
  intro hne hempty
  rw [List.isEmpty_iff] at hempty
  exact hlast (by rw [List.getLast?_eq_some_getLast hne, hempty])

/-- Lines have no common margin if the first of them begins with a visible character. -/
theorem dedent_eq_self {c : Char} {line : List Char} {rest : List (List Char)}
    (hc : Text.isBlank c = false) : Text.dedent ((c :: line) :: rest) = (c :: line) :: rest := by
  have hleading : Text.leading (c :: line) = [] := by
    refine List.takeWhile_cons_of_neg fun hmargin => ?_
    have hspace : c = ' ' ∨ c = '\t' := by simpa using hmargin
    rcases hspace with rfl | rfl <;> exact absurd hc (by decide)
  have hmargin : Text.margin ((c :: line) :: rest) = [] := by
    have hfirst : c :: line ∈ (c :: line) :: rest := List.mem_cons_self
    have hprefix := Text.margin_prefix_leading hfirst (List.cons_ne_nil c line)
    rwa [hleading, List.prefix_nil] at hprefix
  unfold Text.dedent
  simp [hmargin]

/-- A comment in normal form is not changed. -/
theorem cleanText_eq_self {text : List Char} (htext : IsNormal text) : cleanText text = text := by
  cases text with
  | nil => rfl
  | cons c text =>
    have hc : Text.isBlank c = false := htext.first c rfl
    obtain ⟨last, hlast⟩ := Option.ne_none_iff_exists'.mp
      (mt List.getLast?_eq_none_iff.mp (List.cons_ne_nil c text))
    have hvisible : Text.isBlank last = false := htext.last last hlast
    have hbreak (d : Char) (hd : Text.isBlank d = false) : d ≠ '\n' := by
      rintro rfl
      cases hd
    have htrimmed : (Text.pieces '\n' (c :: text)).map Text.trimEnd =
        Text.pieces '\n' (c :: text) := by
      rw [List.map_congr_left fun line hline => trimEnd_eq_self_iff.mpr (htext.lines line hline)]
      exact List.map_id' _
    have hends : withoutEmptyEnds (Text.pieces '\n' (c :: text)) =
        Text.pieces '\n' (c :: text) := by
      refine withoutEmptyEnds_eq_self (fun hempty => ?_) fun hempty => ?_
      · exact hbreak c hc (head?_pieces_eq_nil_iff.mp hempty c rfl)
      · exact hbreak last hvisible (eq_of_getLast?_pieces hempty last hlast)
    have hmargin : Text.dedent (Text.pieces '\n' (c :: text)) = Text.pieces '\n' (c :: text) := by
      obtain ⟨piece, rest, hpieces⟩ := List.exists_cons_of_ne_nil (Text.pieces_ne_nil '\n' text)
      rw [Text.pieces, if_neg (hbreak c hc), hpieces]
      exact dedent_eq_self hc
    have htrim : Text.trim (c :: text) = c :: text := by
      rw [Text.trim, Text.trimStart, List.dropWhile_cons_of_neg (by simp [hc])]
      exact trimEnd_eq_self_iff.mpr htext.last
    rw [cleanText, cleanLines, lines_eq_pieces htext.breaks htext.last (List.cons_ne_nil c text),
      htrimmed, hends, hmargin, Text.intercalate_pieces, htrim,
      partClosers_of_not_hasCloser htext.closer]

/-- Cleaning brings a comment into normal form, in which all its visible text is kept, and cleaning
it once more changes nothing. -/
theorem clean_normalizes (comment : String) :
    Text.visible (clean (some comment)).toList = Text.visible comment.toList ∧
      IsNormal (clean (some comment)).toList ∧
      clean (some (clean (some comment))) = clean (some comment) := by
  have hclean (comment : String) :
      (clean (some comment)).toList = cleanText comment.toList := String.toList_ofList
  rw [hclean comment]
  refine ⟨visible_cleanText _, isNormal_cleanText _, ?_⟩
  rw [← String.toList_inj, hclean, hclean, cleanText_eq_self (isNormal_cleanText _)]

/-- Breaks of every kind, a shared margin, white space at the ends of lines and a closer. -/
example : clean (some "\u2028  \tfirst **//\x0c  \u3000\r\n    last \x1f\n\n") =
    "first ** //\n\n  last" := by
  decide

end EnumBindings.Comment
