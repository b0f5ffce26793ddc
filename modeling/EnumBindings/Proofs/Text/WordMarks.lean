import EnumBindings.Text.Underscored
import Mathlib.Data.List.Induction
import Mathlib.Tactic.SplitIfs

/-!
# Where words begin

Two passes put underscores into a name: each looks for matches of a pattern from left to right and
puts an underscore between the two parts of every match, going on behind it. What the passes make of
a name is the name with an underscore before each place where a word begins, which is told by the
characters of the name around that place.
-/

namespace EnumBindings.Text

/-! ## Patterns -/

/-- Underscores put into the matches of a pattern with two parts, from left to right: a match that
begins at the front is separated, and only where there is none the first character is passed
over. -/
inductive Separates (Matches : List Char → List Char → Prop) : List Char → List Char → Prop
  | nil : Separates Matches [] []
  | found {left right rest result : List Char} : Matches left right →
      Separates Matches rest result →
      Separates Matches (left ++ right ++ rest) (left ++ '_' :: right ++ result)
  | passed {c : Char} {text result : List Char} :
      (∀ left right rest, c :: text = left ++ right ++ rest → ¬Matches left right) →
      Separates Matches text result → Separates Matches (c :: text) (c :: result)

/-- One capital or more, then a capital with a small letter behind it. -/
def EndsAcronym (left right : List Char) : Prop :=
  left ≠ [] ∧ (∀ c ∈ left, isCapital c = true) ∧
    ∃ capital small, right = [capital, small] ∧ isCapital capital = true ∧ isSmall small = true

/-- A small letter or a digit, then a capital. -/
def IsHump (left right : List Char) : Prop :=
  ∃ before capital, left = [before] ∧ right = [capital] ∧
    (isSmall before || isDigit before) = true ∧ isCapital capital = true

/-! ## Places -/

/-- Puts an underscore before every place of a name that a rule asks for. The rule sees the
character at the place, and the ones before and behind it. -/
def markPlaces (rule : Option Char → Char → Option Char → Bool) (name : List Char) : List Char :=
  name.zipIdx.flatMap fun entry =>
    if 0 < entry.2 ∧ rule name[entry.2 - 1]? entry.1 name[entry.2 + 1]? = true then
      ['_', entry.1]
    else [entry.1]

/-- A capital begins a word behind a small letter or a digit, and behind another capital if a small
letter follows. -/
def beginsWord (before : Option Char) (c : Char) (next : Option Char) : Bool :=
  isCapital c && (before.any (fun b => isSmall b || isDigit b) ||
    (before.any isCapital && next.any isSmall))

/-- A name with an underscore before every place where a word begins. -/
def markWords (name : List Char) : List Char :=
  markPlaces beginsWord name

/-- Marks the places of a text, given the character before it. -/
def markFrom (rule : Option Char → Char → Option Char → Bool) (before : Option Char) :
    List Char → List Char
  | [] => []
  | c :: text =>
    (if rule before c text.head? then ['_', c] else [c]) ++ markFrom rule (some c) text

variable {rule : Option Char → Char → Option Char → Bool} {before : Option Char} {c : Char}
  {name text result other left right rest : List Char} {Matches : List Char → List Char → Prop}

/-- The places of a text behind another one are those of the whole from there on. -/
theorem flatMap_zipIdx_eq_markFrom (hrule : ∀ c next, rule none c next = false)
    (front text : List Char) :
    ((text.zipIdx front.length).flatMap fun entry =>
      if 0 < entry.2 ∧ rule (front ++ text)[entry.2 - 1]? entry.1
          (front ++ text)[entry.2 + 1]? = true then
        ['_', entry.1]
      else [entry.1]) = markFrom rule front.getLast? text := by
  induction text generalizing front with
  | nil => rfl
  | cons c text ih =>
    have hrest := ih (front ++ [c])
    rw [List.append_assoc, List.singleton_append, List.length_append, List.length_singleton,
      List.getLast?_concat] at hrest
    have hnext : (front ++ c :: text)[front.length + 1]? = text.head? := by
      rw [List.getElem?_append_right (by omega), List.head?_eq_getElem?]
      simp
    have hplace : (0 < front.length ∧ rule (front ++ c :: text)[front.length - 1]? c
        (front ++ c :: text)[front.length + 1]? = true) ↔
        rule front.getLast? c text.head? = true := by
      rw [hnext]
      by_cases hfront : front = []
      · simp [hfront, hrule]
      · have hlength : 0 < front.length := List.length_pos_iff.mpr hfront
        rw [List.getElem?_append_left (by omega), List.getLast?_eq_getElem?]
        exact and_iff_right hlength
    rw [List.zipIdx_cons, List.flatMap_cons, hrest, markFrom]
    simp only [hplace]

/-- A name is marked from left to right by a rule that asks for no mark in front. -/
theorem markPlaces_eq_markFrom (hrule : ∀ c next, rule none c next = false) (name : List Char) :
    markPlaces rule name = markFrom rule none name :=
  flatMap_zipIdx_eq_markFrom hrule [] name

/-- No word is marked in front of a name. -/
theorem beginsWord_none (c : Char) (next : Option Char) : beginsWord none c next = false := by
  simp [beginsWord]

/-- The words of a name are marked from left to right. -/
theorem markWords_eq_markFrom (name : List Char) :
    markWords name = markFrom beginsWord none name :=
  markPlaces_eq_markFrom beginsWord_none name

/-! ## Each pass -/

/-- The last of several capitals before a small letter. -/
def endsAcronym (before : Option Char) (c : Char) (next : Option Char) : Bool :=
  isCapital c && (before.any isCapital && next.any isSmall)

/-- A capital behind a small letter or a digit. -/
def isHump (before : Option Char) (c : Char) (_next : Option Char) : Bool :=
  isCapital c && before.any fun b => isSmall b || isDigit b

/-- No capital is a small letter. -/
theorem isSmall_eq_false (hc : isCapital c = true) : isSmall c = false := by
  simp only [isCapital, isSmall, Bool.and_eq_true, decide_eq_true_eq, Bool.and_eq_false_iff,
    decide_eq_false_iff_not] at hc ⊢
  omega

/-- No capital is a digit of any script. -/
theorem isDigit_eq_false (hc : isCapital c = true) : isDigit c = false := by
  have hzeros : ∀ first ∈ zeros, first + 10 ≤ 0x41 ∨ 0x5A < first := by decide
  simp only [isCapital, Bool.and_eq_true, decide_eq_true_eq] at hc
  rw [isDigit, digitValue?, Option.isSome_eq_false_iff, Option.isNone_iff_eq_none,
    List.findSome?_eq_none_iff]
  intro first hfirst
  have hapart := hzeros first hfirst
  rw [if_neg (by omega)]

/-- The first pass marks the last of several capitals before a small letter. The capitals read so
far wait until the next character tells whether the last of them is marked. -/
theorem separateAcronyms_eq (text : List Char) :
    (∀ before : Option Char, before.any isCapital = false →
      separateAcronyms [] text = markFrom endsAcronym before text) ∧
    ∀ last run, isCapital last = true → separateAcronyms (last :: run) text =
      run.reverse ++ (if run ≠ [] ∧ text.head?.any isSmall = true then ['_', last] else [last]) ++
        markFrom endsAcronym (some last) text := by
  induction text with
  | nil => simp [separateAcronyms, markFrom]
  | cons c text ih =>
    obtain ⟨hafter, hrun⟩ := ih
    by_cases hc : isCapital c = true
    · refine ⟨fun before hbefore => ?_, fun last run hlast => ?_⟩
      · simp [separateAcronyms, markFrom, hc, hrun, endsAcronym, hbefore]
      · simp [separateAcronyms, markFrom, hc, hrun, endsAcronym, hlast, isSmall_eq_false hc]
    · have hother : separateAcronyms [] text = markFrom endsAcronym (some c) text :=
        hafter (some c) (by simpa using hc)
      refine ⟨fun before _ => ?_, fun last run _ => ?_⟩
      · cases hsmall : isSmall c <;>
          simp [separateAcronyms, markFrom, hc, hother, endsAcronym, hsmall]
      · cases hsmall : isSmall c <;> cases run <;>
          simp [separateAcronyms, markFrom, hc, hother, endsAcronym, hsmall]

/-- The second pass marks the capitals behind a small letter or a digit. -/
theorem separateHumps_eq (text : List Char) :
    separateHumps (c :: text) = c :: markFrom isHump (some c) text := by
  induction text generalizing c with
  | nil => rfl
  | cons d text ih =>
    rw [separateHumps, ih, markFrom, isHump, Option.any_some, Bool.and_comm]
    split_ifs <;> rfl

/-- No underscore is marked by the second pass. -/
theorem isHump_underscore (next : Option Char) : isHump before '_' next = false := by
  have hcapital : isCapital '_' = false := by decide
  simp [isHump, hcapital]

/-- Nothing behind an underscore is marked by the second pass. -/
theorem isHump_after_underscore (next : Option Char) : isHump (some '_') c next = false := by
  have hother : (isSmall '_' || isDigit '_') = false := by decide
  simp only [isHump, Option.any_some, hother, Bool.and_false]

/-- The marks of the first pass neither hide a mark of the second nor add one. -/
theorem markFrom_isHump_markFrom (before : Option Char) (text : List Char) :
    markFrom isHump before (markFrom endsAcronym before text) =
      markFrom beginsWord before text := by
  induction text generalizing before with
  | nil => rfl
  | cons c text ih =>
    have hrule (next next' : Option Char) : beginsWord before c next =
        (isHump before c next' || endsAcronym before c next) := by
      rw [beginsWord, isHump, endsAcronym, Bool.and_or_distrib_left]
    by_cases hacronym : endsAcronym before c text.head? = true
    · simp [markFrom, hacronym, isHump_underscore, isHump_after_underscore, ih, hrule _ none]
    · rw [markFrom, if_neg hacronym, List.singleton_append, markFrom, ih, markFrom,
        hrule _ (markFrom endsAcronym (some c) text).head?]
      simp [hacronym]

/-- Both passes together put an underscore before every place where a word begins. -/
theorem separateHumps_separateAcronyms (name : List Char) :
    separateHumps (separateAcronyms [] name) = markWords name := by
  have hfirst : separateAcronyms [] name = markFrom endsAcronym none name :=
    (separateAcronyms_eq name).1 none rfl
  have hsecond : separateHumps (markFrom endsAcronym none name) =
      markFrom isHump none (markFrom endsAcronym none name) := by
    cases markFrom endsAcronym none name with
    | nil => rfl
    | cons c text => rw [separateHumps_eq]; simp [markFrom, isHump]
  rw [hfirst, hsecond, markFrom_isHump_markFrom, markWords_eq_markFrom]

/-! ## Matches -/

/-- Where matches are unique, so is what a text becomes. -/
theorem Separates.unique
    (hunique : ∀ {left right rest left' right' rest' : List Char}, Matches left right →
      Matches left' right' → left ++ right ++ rest = left' ++ right' ++ rest' →
      left = left' ∧ right = right')
    (hnil : ∀ {right : List Char}, ¬Matches [] right) (h : Separates Matches text result)
    (h' : Separates Matches text other) : result = other := by
  induction h generalizing other with
  | nil =>
    generalize htext : ([] : List Char) = text at h'
    cases h' with
    | nil => rfl
    | @found left right rest result hmatch hrest =>
      simp only [List.nil_eq, List.append_eq_nil_iff] at htext
      exact absurd (htext.1.1 ▸ hmatch) hnil
    | passed => cases htext
  | @found left right rest result hmatch hrest ih =>
    generalize htext : left ++ right ++ rest = text at h'
    cases h' with
    | nil =>
      simp only [List.append_eq_nil_iff] at htext
      exact absurd (htext.1.1 ▸ hmatch) hnil
    | found hmatch' hrest' =>
      obtain ⟨rfl, rfl⟩ := hunique hmatch hmatch' htext
      rw [List.append_cancel_left_eq] at htext
      rw [ih (htext ▸ hrest')]
    | passed hnone => exact absurd hmatch (hnone left right rest htext.symm)
  | @passed c text result hnone hrest ih =>
    generalize htext : c :: text = whole at h'
    cases h' with
    | nil => cases htext
    | @found left right rest result hmatch hrest =>
      exact absurd hmatch (hnone left right rest htext)
    | passed _ hrest' =>
      injection htext with hc htext
      rw [hc, ih (htext ▸ hrest')]

/-- A match of the first pattern at the front of some capitals takes all of them and the small
letter behind. -/
theorem EndsAcronym.eq_of_append (hmatch : EndsAcronym left right) {front : List Char}
    (hfront : ∀ c ∈ front, isCapital c = true) (hother : text.head?.any isCapital = false)
    (htext : front ++ text = left ++ right ++ rest) :
    ∃ capital small, front = left ++ [capital] ∧ right = [capital, small] ∧
      isSmall small = true ∧ text = small :: rest := by
  obtain ⟨_, hleft, capital, small, rfl, hcapital, hsmall⟩ := hmatch
  have hsmall' : isCapital small = false := by
    by_contra hc
    rw [isSmall_eq_false (by simpa using hc)] at hsmall
    cases hsmall
  have hcapitals : ∀ c ∈ left ++ [capital], isCapital c = true := by
    simpa [or_imp, forall_and, hcapital] using hleft
  have htext : front ++ text = (left ++ [capital]) ++ small :: rest := by simpa using htext
  have htake := congrArg (List.takeWhile isCapital) htext
  rw [List.takeWhile_append_of_pos hfront, List.takeWhile_append_of_pos hcapitals,
    List.takeWhile_cons_of_neg (by simp [hsmall'])] at htake
  have hnone : text.takeWhile isCapital = [] := by
    cases text with
    | nil => rfl
    | cons c text => exact List.takeWhile_cons_of_neg (by simpa using hother)
  rw [hnone, List.append_nil, List.append_nil] at htake
  rw [htake, List.append_cancel_left_eq] at htext
  exact ⟨capital, small, htake, rfl, hsmall, htext⟩

/-- The first pattern has one match at a place. -/
theorem EndsAcronym.unique {left' right' rest' : List Char} (h : EndsAcronym left right)
    (h' : EndsAcronym left' right') (htext : left ++ right ++ rest = left' ++ right' ++ rest') :
    left = left' ∧ right = right' := by
  obtain ⟨_, hleft, capital, small, rfl, hcapital, hsmall⟩ := id h
  have hfront : ∀ c ∈ left ++ [capital], isCapital c = true := by
    simpa [or_imp, forall_and, hcapital] using hleft
  have hother : (small :: rest).head?.any isCapital = false := by
    by_contra hc
    rw [isSmall_eq_false (by simpa using hc)] at hsmall
    cases hsmall
  obtain ⟨capital', small', hsame, rfl, _, hrest⟩ :=
    h'.eq_of_append hfront hother (by simpa using htext)
  obtain ⟨rfl, hcapitals⟩ := List.append_inj' hsame rfl
  injection hcapitals with hcapitals
  injection hrest with hsmalls
  exact ⟨rfl, by rw [hcapitals, hsmalls]⟩

/-- Capitals without a match among them are passed over. -/
theorem Separates.passed_capitals {front : List Char}
    (hfront : ∀ c ∈ front, isCapital c = true) (hother : text.head?.any isCapital = false)
    (hnone : front.length ≤ 1 ∨ text.head?.any isSmall = false)
    (h : Separates EndsAcronym text result) :
    Separates EndsAcronym (front ++ text) (front ++ result) := by
  induction front with
  | nil => exact h
  | cons c front ih =>
    rw [List.forall_mem_cons] at hfront
    refine .passed (fun left right rest htext hmatch => ?_)
      (ih hfront.2 (hnone.imp_left fun hlength => by simp at hlength; simp [hlength]))
    obtain ⟨capital, small, hleft, _, hsmall, rfl⟩ :=
      hmatch.eq_of_append (List.forall_mem_cons.mpr hfront) hother htext
    have hlength : 0 < left.length := List.length_pos_iff.mpr hmatch.1
    have hcount := congrArg List.length hleft
    rw [List.length_append, List.length_singleton] at hcount
    rcases hnone with hnone | hnone
    · omega
    · rw [List.head?_cons, Option.any_some, hsmall] at hnone
      cases hnone

/-- The first pass separates the matches of its pattern. -/
theorem separates_separateAcronyms {run : List Char} (hrun : ∀ c ∈ run, isCapital c = true) :
    Separates EndsAcronym (run.reverse ++ text) (separateAcronyms run text) := by
  fun_induction separateAcronyms run text with
  | case1 run =>
    have hreverse : ∀ c ∈ run.reverse, isCapital c = true := by simpa using hrun
    have hnil := Separates.passed_capitals hreverse rfl (.inr rfl) .nil
    rwa [List.append_nil] at hnil ⊢
  | case2 run c text hc ih =>
    have hnext := ih (List.forall_mem_cons.mpr ⟨hc, hrun⟩)
    rwa [List.reverse_cons, List.append_assoc, List.singleton_append] at hnext
  | case3 c text hc last before run hsmall ih =>
    rw [List.forall_mem_cons] at hrun
    have hmatch : EndsAcronym (before :: run).reverse [last, c] :=
      ⟨by simp, by simpa [or_comm] using hrun.2, last, c, rfl, hrun.1, hsmall⟩
    have hfound := Separates.found hmatch (ih (List.forall_mem_nil _))
    simpa using hfound
  | case4 c text hc run hnone ih =>
    -- No match begins at a character that is no capital, nor among the capitals before it.
    have hother : (c :: text).head?.any isCapital = false := by simpa using hc
    have hpassed : Separates EndsAcronym (c :: text) (c :: separateAcronyms [] text) := by
      refine .passed (fun left right rest htext hmatch => ?_) (ih (List.forall_mem_nil _))
      obtain ⟨_, _, hleft, _⟩ := hmatch.eq_of_append (List.forall_mem_nil _) hother htext
      simp at hleft
    refine hpassed.passed_capitals (by simpa using hrun) hother ?_
    cases hsmall : isSmall c with
    | false => exact .inr hsmall
    | true =>
      cases run with
      | nil => simp
      | cons last run =>
        cases run with
        | nil => simp
        | cons before run => exact (hnone last before run hsmall rfl).elim

/-- The second pattern has one match at a place. -/
theorem IsHump.unique {left' right' rest' : List Char} (h : IsHump left right)
    (h' : IsHump left' right') (htext : left ++ right ++ rest = left' ++ right' ++ rest') :
    left = left' ∧ right = right' := by
  obtain ⟨before, capital, rfl, rfl, _⟩ := h
  obtain ⟨before', capital', rfl, rfl, _⟩ := h'
  injection htext with hbefore htext
  injection htext with hcapital
  exact ⟨by rw [hbefore], by rw [hcapital]⟩

/-- A match of the second pattern has a character before its capital. -/
theorem IsHump.ne_nil : ¬IsHump [] right := by
  rintro ⟨before, capital, hnil, _⟩
  cases hnil

/-- The second pass keeps a capital in front. -/
theorem separateHumps_cons_of_isCapital (hc : isCapital c = true) :
    separateHumps (c :: text) = c :: separateHumps text := by
  cases text with
  | nil => rfl
  | cons d text => simp [separateHumps, isSmall_eq_false hc, isDigit_eq_false hc]

/-- The second pass separates the matches of its pattern. -/
theorem separates_separateHumps (text : List Char) :
    Separates IsHump text (separateHumps text) := by
  induction text using List.twoStepInduction with
  | nil => exact .nil
  | singleton c =>
    refine .passed (fun left right rest htext hmatch => ?_) .nil
    obtain ⟨before, capital, rfl, rfl, _⟩ := hmatch
    cases htext
  | cons_cons c d text ih ihnext =>
    rw [separateHumps]
    split_ifs with hmatch
    · rw [Bool.and_eq_true] at hmatch
      rw [separateHumps_cons_of_isCapital hmatch.2]
      have hhump : IsHump [c] [d] := ⟨c, d, rfl, rfl, hmatch⟩
      exact .found hhump ih
    · refine .passed (fun left right rest htext hfound => ?_) (ihnext d)
      obtain ⟨before, capital, rfl, rfl, hbefore, hcapital⟩ := hfound
      injection htext with hc htext
      injection htext with hd
      rw [hc, hd, hbefore, hcapital] at hmatch
      exact hmatch rfl

/-- Two passes over a name make one text of it, where an underscore stands before every place where
a word begins. -/
theorem separates_iff_markWords (name result : List Char) :
    (∃ between, Separates EndsAcronym name between ∧ Separates IsHump between result) ↔
      result = markWords name := by
  have hfirst : Separates EndsAcronym name (separateAcronyms [] name) :=
    separates_separateAcronyms (List.forall_mem_nil _)
  have hsecond := separates_separateHumps (separateAcronyms [] name)
  rw [separateHumps_separateAcronyms] at hsecond
  constructor
  · rintro ⟨between, hbetween, hresult⟩
    obtain rfl := hbetween.unique EndsAcronym.unique (fun hmatch => hmatch.1 rfl) hfirst
    exact hresult.unique IsHump.unique IsHump.ne_nil hsecond
  · rintro rfl
    exact ⟨_, hfirst, hsecond⟩

example : markWords "HTTPMethod_4XXError".toList = "HTTP_Method_4_XX_Error".toList := by decide

end EnumBindings.Text
