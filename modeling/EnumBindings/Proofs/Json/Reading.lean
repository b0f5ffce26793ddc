import EnumBindings.Json.Reader
import EnumBindings.Proofs.Json.Scanning

/-!
# Reading a spelling

The machine that reads a document takes the tokens of a spelling one after another. What it does
with a part of a text is told by the state that it comes to and by the text that is left; where in
the text that happens makes no difference to a document without faults. Every spelling of a document
is read as that document.
-/

namespace EnumBindings

namespace Reading

variable {state between next : Reading} {text middle rest : List Char} {frames : List Frame}

/-- From a state before a text the machine comes to another state, with a part of the text left. -/
def Reaches (state : Reading) (text : List Char) (next : Reading) (rest : List Char) : Prop :=
  ∀ stop offset, ∃ behind,
    run {} stop state (Token.scan offset 0 text) = run {} stop next (Token.scan behind 0 rest)

theorem Reaches.trans (hfirst : state.Reaches text between middle)
    (hsecond : between.Reaches middle next rest) : state.Reaches text next rest := by
  intro stop offset
  obtain ⟨behind, hfirst⟩ := hfirst stop offset
  obtain ⟨last, hsecond⟩ := hsecond stop behind
  exact ⟨last, hfirst.trans hsecond⟩

/-- White space is passed over. -/
theorem reaches_of_gap {gap : List Char} (hgap : Gap gap) (state : Reading) (rest : List Char) :
    state.Reaches (gap ++ rest) state rest := by
  intro stop offset
  induction gap generalizing offset with
  | nil => exact ⟨offset, rfl⟩
  | cons c gap ih =>
    have hspace : Token.isSpace c = true := by
      rcases hgap c List.mem_cons_self with rfl | rfl | rfl | rfl <;> rfl
    obtain ⟨behind, hbehind⟩ := ih (fun d hd => hgap d (List.mem_cons_of_mem c hd)) (offset + 1)
    refine ⟨behind, ?_⟩
    rw [List.cons_append, Token.scan, if_pos hspace]
    exact hbehind

/-- Characters of a token that has been read are passed over. -/
theorem scan_append (offset : Nat) (passed text : List Char) :
    Token.scan offset passed.length (passed ++ text) =
      Token.scan (offset + passed.length) 0 text := by
  induction passed generalizing offset with
  | nil => rfl
  | cons c passed ih =>
    show Token.scan (offset + 1) passed.length (passed ++ text) = _
    rw [ih, List.length_cons, Nat.add_assoc, Nat.add_comm 1]

/-- A piece that is no token is never due. -/
theorem step?_broken (state : Reading) (cause : Broken) : state.step? (.broken cause) = none := by
  cases state with
  | afterValue value frames =>
    cases frames with
    | nil => rfl
    | cons frame frames => cases frame <;> rfl
  | _ => rfl

/-- A token that is due is taken. -/
theorem reaches_of_read {piece : List Char} {token : Token}
    (hread : Token.read (piece ++ rest) = (token, piece.length))
    (hstep : state.step? token = some next)
    (hpiece : ∃ c others, piece = c :: others ∧ Token.isSpace c = false) :
    state.Reaches (piece ++ rest) next rest := by
  obtain ⟨c, others, rfl, hspace⟩ := hpiece
  intro stop offset
  refine ⟨offset + 1 + others.length, ?_⟩
  have hscan : Token.scan offset 0 (c :: others ++ rest) =
      (offset, token) :: Token.scan (offset + 1 + others.length) 0 rest := by
    rw [← scan_append (offset + 1)]
    rw [List.cons_append] at hread ⊢
    rw [Token.scan, if_neg (by rw [hspace]; decide), hread]
    cases token with
    | broken cause =>
      rw [step?_broken] at hstep
      cases hstep
    | _ => rfl
  rw [hscan, run_cons_unlimited hstep]

/-- A token of one character is taken where it is due. -/
theorem reaches_of_mark {c : Char} {token : Token}
    (hread : ∀ rest, Token.read (c :: rest) = (token, 1)) (hspace : Token.isSpace c = false)
    (hstep : state.step? token = some next) (rest : List Char) :
    state.Reaches (c :: rest) next rest := by
  have hpiece : Token.read ([c] ++ rest) = (token, [c].length) := hread rest
  exact reaches_of_read hpiece hstep ⟨c, [], rfl, hspace⟩

/-! ## Values -/

/-- A state in which a value may begin, within some containers. -/
def Begins (state : Reading) (frames : List Frame) : Prop :=
  ∀ token next, begin? frames token = some next → state.step? token = some next

theorem begins_atValue (frames : List Frame) : (Reading.atValue frames).Begins frames :=
  fun _ _ hbegin => hbegin

/-- The first item of a list may begin where the list has been opened. -/
theorem begins_atFirstItem (frames : List Frame) :
    (Reading.atFirstItem frames).Begins (.list [] :: frames) := by
  intro token next hbegin
  cases token with
  | closeList => cases hbegin
  | _ => exact hbegin

/-- What is read of a value: the machine has it, wherever a value may begin. -/
def ReadsValue (value : Json) (text : List Char) : Prop :=
  ∀ (state : Reading) (frames : List Frame) (rest : List Char), state.Begins frames →
    Token.Ends rest → state.Reaches (text ++ rest) (.afterValue value frames) rest

/-- What is read of the items of a list: the machine has the list with these items behind those it
had, once the list is closed. -/
def ReadsItems (items : List Json) (text : List Char) : Prop :=
  ∀ (state : Reading) (frames : List Frame) (known : List Json) (rest : List Char),
    state.Begins (.list known :: frames) →
    state.Reaches (text ++ ']' :: rest) (.afterValue (.list (known.reverse ++ items)) frames) rest

/-- What is read of the fields of an object: the machine has the object with these fields behind
those it had, once the object is closed. -/
def ReadsFields (fields : List (String × Json)) (text : List Char) : Prop :=
  ∀ (state : Reading) (frames : List Frame) (known : List (String × Json)) (rest : List Char),
    (∀ key, state.step? (.quoted key) = some (.atColon known key frames)) →
    state.Reaches (text ++ '\x7d' :: rest) (.afterValue (.object (known.reverse ++ fields)) frames)
      rest

/-- White space and brackets end a number. -/
theorem ends_of_gap {gap : List Char} (hgap : Gap gap) {c : Char}
    (hc : c = ',' ∨ c = ']' ∨ c = '\x7d') (rest : List Char) : Token.Ends (gap ++ c :: rest) := by
  intro d hd
  cases gap with
  | nil =>
    obtain rfl : c = d := Option.some.inj hd
    rcases hc with rfl | rfl | rfl <;> decide
  | cons first others =>
    obtain rfl : first = d := Option.some.inj hd
    rcases hgap first List.mem_cons_self with rfl | rfl | rfl | rfl <;> decide

/-- White space ends a number, as does the end of a text. -/
theorem ends_of_gap_nil {gap : List Char} (hgap : Gap gap) : Token.Ends gap := by
  intro d hd
  cases gap with
  | nil => cases hd
  | cons first others =>
    obtain rfl : first = d := Option.some.inj hd
    rcases hgap first List.mem_cons_self with rfl | rfl | rfl | rfl <;> decide

theorem readsValue_of_word {value : Json} {word : List Char}
    (hread : ∀ rest, Token.read (word ++ rest) = (.plain value, word.length))
    (hword : ∃ c others, word = c :: others ∧ Token.isSpace c = false) : ReadsValue value word :=
  fun _ _ rest hbegins _ => reaches_of_read (hread rest) (hbegins _ _ rfl) hword

theorem readsValue_of_spellsInteger {number : Int} {text : List Char}
    (htext : SpellsInteger number text) : ReadsValue (.int number) text := by
  intro state frames rest hbegins hends
  exact reaches_of_read (Token.read_of_spellsInteger htext hends) (hbegins _ _ rfl)
    (Token.exists_cons_of_spellsInteger htext)

theorem readsValue_of_spellsText {content : String} {text : List Char}
    (htext : SpellsText content text) : ReadsValue (.text content) text := by
  intro state frames rest hbegins _
  exact reaches_of_read (Token.read_of_spellsText htext rest) (hbegins _ _ rfl)
    (Token.exists_cons_of_spellsText htext)

/-! ## Lists -/

theorem readsValue_of_emptyList {gap : List Char} (hgap : Gap gap) :
    ReadsValue (.list []) ('[' :: gap ++ [']']) := by
  intro state frames rest hbegins _
  rw [List.append_assoc, List.cons_append, List.singleton_append]
  have hopen : state.Reaches ('[' :: (gap ++ ']' :: rest)) (.atFirstItem frames)
      (gap ++ ']' :: rest) :=
    reaches_of_mark (fun _ => rfl) rfl (hbegins .openList _ rfl) _
  have hspace := reaches_of_gap hgap (.atFirstItem frames) (']' :: rest)
  have hclose : (Reading.atFirstItem frames).Reaches (']' :: rest) (.afterValue (.list []) frames)
      rest := reaches_of_mark (fun _ => rfl) rfl rfl rest
  exact (hopen.trans hspace).trans hclose

theorem readsValue_of_readsItems {items : List Json} {inner : List Char}
    (hitems : ReadsItems items inner) : ReadsValue (.list items) ('[' :: inner ++ [']']) := by
  intro state frames rest hbegins _
  rw [List.append_assoc, List.cons_append, List.singleton_append]
  have hopen : state.Reaches ('[' :: (inner ++ ']' :: rest)) (.atFirstItem frames)
      (inner ++ ']' :: rest) :=
    reaches_of_mark (fun _ => rfl) rfl (hbegins .openList _ rfl) _
  exact hopen.trans (hitems _ frames [] rest (begins_atFirstItem frames))

/-- An item is read up to the mark behind it. -/
theorem reaches_of_item {value : Json} {before text behind : List Char} (hbefore : Gap before)
    (htext : ReadsValue value text) (hbehind : Gap behind) {frame : Frame}
    (hbegins : state.Begins (frame :: frames)) {c : Char} (hc : c = ',' ∨ c = ']' ∨ c = '\x7d')
    (rest : List Char) :
    state.Reaches (before ++ text ++ behind ++ c :: rest) (.afterValue value (frame :: frames))
      (c :: rest) := by
  rw [List.append_assoc, List.append_assoc]
  have hvalue := htext state (frame :: frames) (behind ++ c :: rest) hbegins
    (ends_of_gap hbehind hc rest)
  exact ((reaches_of_gap hbefore state _).trans hvalue).trans (reaches_of_gap hbehind _ _)

theorem readsItems_last {item : Json} {before text behind : List Char} (hbefore : Gap before)
    (htext : ReadsValue item text) (hbehind : Gap behind) :
    ReadsItems [item] (before ++ text ++ behind) := by
  intro state frames known rest hbegins
  have hitem := reaches_of_item hbefore htext hbehind hbegins (.inr (.inl rfl)) rest
  have hclose : (Reading.afterValue item (.list known :: frames)).Reaches (']' :: rest)
      (.afterValue (.list (item :: known).reverse) frames) rest :=
    reaches_of_mark (fun _ => rfl) rfl rfl rest
  rw [List.reverse_cons] at hclose
  exact hitem.trans hclose

theorem readsItems_more {item : Json} {items : List Json} {before text behind others : List Char}
    (hbefore : Gap before) (htext : ReadsValue item text) (hbehind : Gap behind)
    (hitems : ReadsItems items others) :
    ReadsItems (item :: items) (before ++ text ++ behind ++ ',' :: others) := by
  intro state frames known rest hbegins
  rw [List.append_assoc _ (',' :: others), List.cons_append]
  have hitem := reaches_of_item hbefore htext hbehind hbegins (.inl rfl) (others ++ ']' :: rest)
  have hcomma : (Reading.afterValue item (.list known :: frames)).Reaches
      (',' :: (others ++ ']' :: rest)) (.atValue (.list (item :: known) :: frames))
      (others ++ ']' :: rest) :=
    reaches_of_mark (fun _ => rfl) rfl rfl _
  have hothers := hitems _ frames (item :: known) rest (begins_atValue _)
  rw [List.reverse_cons, List.append_assoc, List.singleton_append] at hothers
  exact (hitem.trans hcomma).trans hothers

/-! ## Objects -/

theorem readsValue_of_emptyObject {gap : List Char} (hgap : Gap gap) :
    ReadsValue (.object []) ('\x7b' :: gap ++ ['\x7d']) := by
  intro state frames rest hbegins _
  rw [List.append_assoc, List.cons_append, List.singleton_append]
  have hopen : state.Reaches ('\x7b' :: (gap ++ '\x7d' :: rest)) (.atFirstKey frames)
      (gap ++ '\x7d' :: rest) :=
    reaches_of_mark (fun _ => rfl) rfl (hbegins .openObject _ rfl) _
  have hspace := reaches_of_gap hgap (.atFirstKey frames) ('\x7d' :: rest)
  have hclose : (Reading.atFirstKey frames).Reaches ('\x7d' :: rest)
      (.afterValue (.object []) frames) rest := reaches_of_mark (fun _ => rfl) rfl rfl rest
  exact (hopen.trans hspace).trans hclose

theorem readsValue_of_readsFields {fields : List (String × Json)} {inner : List Char}
    (hfields : ReadsFields fields inner) :
    ReadsValue (.object fields) ('\x7b' :: inner ++ ['\x7d']) := by
  intro state frames rest hbegins _
  rw [List.append_assoc, List.cons_append, List.singleton_append]
  have hopen : state.Reaches ('\x7b' :: (inner ++ '\x7d' :: rest)) (.atFirstKey frames)
      (inner ++ '\x7d' :: rest) :=
    reaches_of_mark (fun _ => rfl) rfl (hbegins .openObject _ rfl) _
  exact hopen.trans (hfields _ frames [] rest fun _ => rfl)

/-- A key is read with the colon behind it. -/
theorem reaches_of_key {key : String} {known : List (String × Json)}
    {before name middle : List Char} (hbefore : Gap before) (hname : SpellsText key name)
    (hmiddle : Gap middle) (hstep : state.step? (.quoted key) = some (.atColon known key frames))
    (rest : List Char) :
    state.Reaches (before ++ name ++ middle ++ ':' :: rest) (.atValue (.object known key :: frames))
      rest := by
  rw [List.append_assoc, List.append_assoc]
  have hkey : state.Reaches (name ++ (middle ++ ':' :: rest)) (.atColon known key frames)
      (middle ++ ':' :: rest) :=
    reaches_of_read (Token.read_of_spellsText hname _) hstep (Token.exists_cons_of_spellsText hname)
  have hcolon : (Reading.atColon known key frames).Reaches (':' :: rest)
      (.atValue (.object known key :: frames)) rest := reaches_of_mark (fun _ => rfl) rfl rfl rest
  exact (((reaches_of_gap hbefore state _).trans hkey).trans
    (reaches_of_gap hmiddle _ _)).trans hcolon

theorem readsFields_last {key : String} {value : Json}
    {before name middle front text behind : List Char} (hbefore : Gap before)
    (hname : SpellsText key name) (hmiddle : Gap middle) (hfront : Gap front)
    (htext : ReadsValue value text) (hbehind : Gap behind) :
    ReadsFields [(key, value)] (before ++ name ++ middle ++ ':' :: (front ++ text ++ behind)) := by
  intro state frames known rest hstep
  rw [List.append_assoc _ (':' :: _), List.cons_append]
  have hkey := reaches_of_key hbefore hname hmiddle (hstep key)
    (front ++ text ++ behind ++ '\x7d' :: rest)
  have hvalue := reaches_of_item hfront htext hbehind
    (begins_atValue (.object known key :: frames)) (.inr (.inr rfl)) rest
  have hclose : (Reading.afterValue value (.object known key :: frames)).Reaches ('\x7d' :: rest)
      (.afterValue (.object ((key, value) :: known).reverse) frames) rest :=
    reaches_of_mark (fun _ => rfl) rfl rfl rest
  rw [List.reverse_cons] at hclose
  exact (hkey.trans hvalue).trans hclose

theorem readsFields_more {key : String} {value : Json} {fields : List (String × Json)}
    {before name middle front text behind others : List Char} (hbefore : Gap before)
    (hname : SpellsText key name) (hmiddle : Gap middle) (hfront : Gap front)
    (htext : ReadsValue value text) (hbehind : Gap behind) (hfields : ReadsFields fields others) :
    ReadsFields ((key, value) :: fields)
      (before ++ name ++ middle ++ ':' :: (front ++ text ++ behind ++ ',' :: others)) := by
  intro state frames known rest hstep
  rw [List.append_assoc _ (':' :: _), List.cons_append, List.append_assoc _ (',' :: others),
    List.cons_append]
  have hkey := reaches_of_key hbefore hname hmiddle (hstep key)
    (front ++ text ++ behind ++ ',' :: (others ++ '\x7d' :: rest))
  have hvalue := reaches_of_item hfront htext hbehind
    (begins_atValue (.object known key :: frames)) (.inl rfl) (others ++ '\x7d' :: rest)
  have hcomma : (Reading.afterValue value (.object known key :: frames)).Reaches
      (',' :: (others ++ '\x7d' :: rest)) (.atKey ((key, value) :: known) frames)
      (others ++ '\x7d' :: rest) :=
    reaches_of_mark (fun _ => rfl) rfl rfl _
  have hothers := hfields (.atKey ((key, value) :: known) frames) frames ((key, value) :: known)
    rest fun _ => rfl
  rw [List.reverse_cons, List.append_assoc, List.singleton_append] at hothers
  exact ((hkey.trans hvalue).trans hcomma).trans hothers

/-- Every spelling of a value is read as that value. The induction is on the spelling, along with
the spellings of items and fields. -/
theorem readsValue_of_spellsValue {value : Json} {text : List Char}
    (htext : SpellsValue value text) : ReadsValue value text := by
  refine @SpellsValue.rec (fun value text _ => ReadsValue value text)
    (fun items text _ => ReadsItems items text) (fun fields text _ => ReadsFields fields text)
    ?null ?yes ?no ?integer ?text ?emptyList ?list ?emptyObject ?object ?lastItem ?moreItems
    ?lastField ?moreFields _ _ htext
  case null => exact readsValue_of_word (fun _ => rfl) ⟨'n', _, rfl, rfl⟩
  case yes => exact readsValue_of_word (fun _ => rfl) ⟨'t', _, rfl, rfl⟩
  case no => exact readsValue_of_word (fun _ => rfl) ⟨'f', _, rfl, rfl⟩
  case integer => exact readsValue_of_spellsInteger
  case text => exact readsValue_of_spellsText
  case emptyList => exact readsValue_of_emptyList
  case list => exact fun _ => readsValue_of_readsItems
  case emptyObject => exact readsValue_of_emptyObject
  case object => exact fun _ => readsValue_of_readsFields
  case lastItem =>
    intro _ _ _ _ hbefore _ hbehind htext
    exact readsItems_last hbefore htext hbehind
  case moreItems =>
    intro _ _ _ _ _ _ hbefore _ hbehind _ htext hitems
    exact readsItems_more hbefore htext hbehind hitems
  case lastField =>
    intro _ _ _ _ _ _ _ _ hbefore hname hmiddle hfront _ hbehind htext
    exact readsFields_last hbefore hname hmiddle hfront htext hbehind
  case moreFields =>
    intro _ _ _ _ _ _ _ _ _ _ hbefore hname hmiddle hfront _ hbehind _ htext hfields
    exact readsFields_more hbefore hname hmiddle hfront htext hbehind hfields

end Reading

/-- Every spelling of a document is read as that document. -/
theorem Json.read_of_spellsDocument {document : Json} {text : List Char}
    (htext : SpellsDocument document text) : Json.read text = .ok document := by
  have hrun : Reading.run {} text.length (.atValue []) (Token.scan 0 0 text) = .ok document := by
    cases htext with
    | @value before text behind _ hbefore htext hbehind =>
      have hvalue := Reading.readsValue_of_spellsValue htext (.atValue []) [] behind
        (Reading.begins_atValue []) (Reading.ends_of_gap_nil hbehind)
      have hspace := Reading.reaches_of_gap hbehind (.afterValue document []) []
      rw [List.append_nil] at hspace
      rw [List.append_assoc]
      obtain ⟨last, hlast⟩ := ((Reading.reaches_of_gap hbefore (.atValue []) _).trans
        (hvalue.trans hspace)) (before ++ (text ++ behind)).length 0
      exact hlast
  unfold Json.read
  by_cases hmark : text.head? = some '\uFEFF'
  · -- A byte order mark is no token, so that nothing would have been read.
    obtain ⟨rest, rfl⟩ := List.head?_eq_some_iff.mp hmark
    cases hrun
  · rw [if_neg hmark]
    exact hrun

end EnumBindings
