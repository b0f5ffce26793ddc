import EnumBindings.Proofs.Binding.Clashes
import EnumBindings.Proofs.Text.AsciiCase
import EnumBindings.Proofs.Text.Values
import EnumBindings.Proofs.Text.WordMarks

/-!
# The shared start of a name in words

A name in capitals is the name with an underscore before each place where a word begins, in lower
and then in upper case. So for a name in words of plain letters and digits the values are expected
to begin with the words in capitals, each with an underscore behind it, and just that is taken off
the names of their members.
-/

namespace EnumBindings

namespace Text

/-- A word: a capital, and small letters and ASCII digits behind it, at least one. -/
def isWord : List Char → Bool
  | [] => false
  | capital :: rest =>
    isCapital capital && !rest.isEmpty && rest.all fun c => isSmall c || c.isDigit

/-- Words in capitals, with an underscore behind each. -/
def capitals (words : List (List Char)) : List Char :=
  words.flatMap fun word => word.map Char.toUpper ++ ['_']

variable {word text : List Char} {words : List (List Char)} {before : Option Char} {c : Char}

/-- A word has a capital in front and none behind. -/
theorem isWord_iff : isWord word = true ↔ ∃ capital rest, word = capital :: rest ∧
    isCapital capital = true ∧ rest ≠ [] ∧ ∀ c ∈ rest, isSmall c = true ∨ c.isDigit = true := by
  cases word with
  | nil => simp [isWord]
  | cons capital rest => simp [isWord, and_assoc]

/-- Behind a small letter or a digit of a word another word may begin. -/
theorem isSmall_or_isDigit (hc : isSmall c = true ∨ c.isDigit = true) :
    (isSmall c || isDigit c) = true := by
  rw [Bool.or_eq_true, isDigit]
  exact hc.imp_right fun hdigit => by rw [digitValue?_of_isDigit hdigit]; rfl

/-- No word begins within another one. -/
theorem beginsWord_eq_false {next : Option Char} (hc : isSmall c = true ∨ c.isDigit = true) :
    beginsWord before c next = false := by
  have hcapital : isCapital c = false := by
    by_contra hcapital
    rw [Bool.not_eq_false] at hcapital
    have hother := isSmall_or_isDigit hc
    rw [isSmall_eq_false hcapital, isDigit_eq_false hcapital] at hother
    cases hother
  rw [beginsWord, hcapital, Bool.false_and]

/-- Nothing is marked behind the capital of a word, and behind the word the next one may begin. -/
theorem markFrom_rest {rest : List Char} (hrest : rest ≠ [])
    (hplain : ∀ c ∈ rest, isSmall c = true ∨ c.isDigit = true) (before : Option Char)
    (text : List Char) :
    ∃ last, (isSmall last || isDigit last) = true ∧
      markFrom beginsWord before (rest ++ text) = rest ++ markFrom beginsWord (some last) text := by
  induction rest generalizing before with
  | nil => exact absurd rfl hrest
  | cons c rest ih =>
    rw [List.forall_mem_cons] at hplain
    rw [List.cons_append, markFrom, beginsWord_eq_false hplain.1]
    cases rest with
    | nil => exact ⟨c, isSmall_or_isDigit hplain.1, rfl⟩
    | cons d rest =>
      obtain ⟨last, hlast, heq⟩ := ih (List.cons_ne_nil d rest) hplain.2 (some c)
      exact ⟨last, hlast, by rw [heq]; rfl⟩

/-- A word takes its mark, and behind it the next one may begin. -/
theorem markFrom_word (hword : isWord word = true) (text : List Char) :
    ∃ last, (isSmall last || isDigit last) = true ∧
      markFrom beginsWord none (word ++ text) = word ++ markFrom beginsWord (some last) text ∧
      ∀ before, (isSmall before || isDigit before) = true →
        markFrom beginsWord (some before) (word ++ text) =
          '_' :: word ++ markFrom beginsWord (some last) text := by
  obtain ⟨capital, rest, rfl, hcapital, hrest, hplain⟩ := isWord_iff.mp hword
  obtain ⟨last, hlast, heq⟩ := markFrom_rest hrest hplain (some capital) text
  refine ⟨last, hlast, ?_, fun before hbefore => ?_⟩
  · rw [List.cons_append, markFrom, beginsWord_none, heq]
    rfl
  · have hbegins (next : Option Char) : beginsWord (some before) capital next = true := by
      simp [beginsWord, hcapital, Bool.or_eq_true_iff.mp hbefore]
    rw [List.cons_append, markFrom, hbegins, heq]
    rfl

/-- Words that follow another one all take their marks. -/
theorem markFrom_flatten (hwords : ∀ word ∈ words, isWord word = true) {last : Char}
    (hlast : (isSmall last || isDigit last) = true) :
    markFrom beginsWord (some last) words.flatten = words.flatMap ('_' :: ·) := by
  induction words generalizing last with
  | nil => rfl
  | cons word words ih =>
    rw [List.forall_mem_cons] at hwords
    obtain ⟨next, hnext, _, hmarked⟩ := markFrom_word hwords.1 words.flatten
    rw [List.flatten_cons, hmarked last hlast, ih hwords.2 hnext, List.flatMap_cons]

/-- A name in words has an underscore before every word but the first. -/
theorem markWords_flatten (hword : isWord word = true)
    (hwords : ∀ word ∈ words, isWord word = true) :
    markWords (word :: words).flatten = word ++ words.flatMap ('_' :: ·) := by
  obtain ⟨last, hlast, hfirst, _⟩ := markFrom_word hword words.flatten
  rw [markWords_eq_markFrom, List.flatten_cons, hfirst, markFrom_flatten hwords hlast]

/-- The characters of words are letters and digits of ASCII. -/
theorem lt_of_mem_word (hword : isWord word = true) (hc : c ∈ word) :
    c.toNat < 128 ∧ c ≠ '-' := by
  obtain ⟨capital, rest, rfl, hcapital, _, hplain⟩ := isWord_iff.mp hword
  have hcode : 48 ≤ c.toNat ∧ c.toNat < 128 := by
    rcases List.mem_cons.mp hc with rfl | hc
    · simp only [isCapital, Bool.and_eq_true, decide_eq_true_eq] at hcapital
      omega
    · rcases hplain c hc with hsmall | hdigit
      · simp only [isSmall, Bool.and_eq_true, decide_eq_true_eq] at hsmall
        omega
      · have hrange : 48 ≤ c.toNat ∧ c.toNat ≤ 57 := Char.isDigit_iff_toNat.mp hdigit
        omega
  refine ⟨hcode.2, ?_⟩
  rintro rfl
  exact absurd hcode.1 (by decide)

/-- Both cases of an ASCII text without hyphens are taken character by character. -/
theorem upper_lower_joinHyphens (htext : ∀ c ∈ text, c.toNat < 128 ∧ c ≠ '-') :
    upper (lower (joinHyphens text)) = text.map Char.toUpper := by
  have hjoin : joinHyphens text = text := by
    rw [joinHyphens, List.map_congr_left fun c hc => if_neg (htext c hc).2, List.map_id']
  have hcase : ∀ c ∈ text, c.toLower.toNat < 128 ∧ c.toLower.toUpper = c.toUpper := by
    intro c hc
    have hall : decide (c.toLower.toNat < 128 ∧ c.toLower.toUpper = c.toUpper) = true :=
      of_forall_ascii
        (p := fun c => decide (c.toLower.toNat < 128 ∧ c.toLower.toUpper = c.toUpper))
        (by decide) (htext c hc).1
    exact of_decide_eq_true hall
  rw [hjoin, lower_of_ascii fun c hc => (htext c hc).1,
    upper_of_ascii (List.forall_mem_map.mpr fun c hc => (hcase c hc).1), List.map_map]
  exact List.map_congr_left fun c hc => (hcase c hc).2

/-- Underscores before the words and one behind the last are underscores behind the words and one
before the first. -/
theorem flatMap_underscore (words : List (List Char)) :
    words.flatMap ('_' :: ·) ++ ['_'] = '_' :: words.flatMap (· ++ ['_']) := by
  induction words with
  | nil => rfl
  | cons word words ih => simp [ih]

/-- A name in words is written in capitals with underscores between the words. -/
theorem screaming_flatten (hne : words ≠ []) (hwords : ∀ word ∈ words, isWord word = true) :
    screaming words.flatten ++ ['_'] = capitals words := by
  cases words with
  | nil => exact absurd rfl hne
  | cons word words =>
    obtain ⟨hword, hrest⟩ := List.forall_mem_cons.mp hwords
    have hplain : ∀ c ∈ word ++ words.flatMap ('_' :: ·), c.toNat < 128 ∧ c ≠ '-' := by
      intro c hc
      rw [List.mem_append, List.mem_flatMap] at hc
      rcases hc with hc | ⟨other, hother, hc⟩
      · exact lt_of_mem_word hword hc
      · rcases List.mem_cons.mp hc with rfl | hc
        · decide
        · exact lt_of_mem_word (hrest other hother) hc
    have hupper : (words.flatMap ('_' :: ·)).map Char.toUpper =
        (words.map (List.map Char.toUpper)).flatMap ('_' :: ·) := by
      rw [List.map_flatMap, List.flatMap_map]
      rfl
    rw [screaming, underscored, separateHumps_separateAcronyms, markWords_flatten hword hrest,
      upper_lower_joinHyphens hplain, List.map_append, hupper, List.append_assoc,
      flatMap_underscore, List.flatMap_map, capitals, List.flatMap_cons, List.append_assoc]
    rfl

end Text

variable {words : List (List Char)}

/-- The values of an enumeration whose name is in words are expected to begin with the words in
capitals. -/
theorem EnumDescriptor.sharedStart_eq {enum : EnumDescriptor} (hne : words ≠ [])
    (hwords : ∀ word ∈ words, Text.isWord word = true) (hname : enum.name.toList = words.flatten) :
    enum.sharedStart = String.ofList (Text.capitals words) := by
  rw [← String.toList_inj, sharedStart, screamingName, hname, String.toList_append,
    String.toList_ofList, String.toList_ofList, String.toList_ofList,
    ← Text.screaming_flatten hne hwords]

/-- The two passes of patterns make one text of a name, the one with an underscore before every
place where a word begins; it is the name in capitals but for hyphens and case. So the values of an
enumeration whose name is in words are expected to begin with the words in capitals, each with an
underscore behind it, and their members are named by what is behind. -/
theorem screamingName_marks_words (name : String) :
    (∀ result, (∃ between, Text.Separates Text.EndsAcronym name.toList between ∧
        Text.Separates Text.IsHump between result) ↔ result = Text.markWords name.toList) ∧
      screamingName name = String.ofList
        (Text.upper (Text.lower (Text.joinHyphens (Text.markWords name.toList)))) ∧
      ∀ words ≠ [], (∀ word ∈ words, Text.isWord word = true) → name.toList = words.flatten →
        ∀ enum : EnumDescriptor, enum.name = name →
          enum.sharedStart = String.ofList (Text.capitals words) ∧
          ∀ (options : Options) (value : EnumValue) (rest : String),
            options.removeEnumPrefix = true →
            value.name = String.ofList (Text.capitals words) ++ rest →
            memberName options enum value = rest := by
  refine ⟨Text.separates_iff_markWords name.toList, ?_, ?_⟩
  · rw [screamingName, Text.screaming, Text.underscored, Text.separateHumps_separateAcronyms]
  · intro words hne hwords hname enum henum
    have hstart := EnumDescriptor.sharedStart_eq hne hwords (henum ▸ hname)
    refine ⟨hstart, fun options value rest hremove hvalue => ?_⟩
    rw [← hstart] at hvalue
    have hstrips : Binding.Strips ⟨enum, options⟩ value :=
      Binding.strips_of_name_eq hremove hvalue
    exact (Binding.memberName_eq_iff_of_strips hstrips).mpr hvalue

/-- A name with a digit within a word, and a value that has the shared start twice. -/
theorem screamingName_marks_words_http2 :
    let enum : EnumDescriptor := { name := "Http2StatusOk", fullName := "Http2StatusOk" }
    screamingName enum.name = "HTTP2_STATUS_OK" ∧ enum.sharedStart = "HTTP2_STATUS_OK_" ∧
      memberName { removeEnumPrefix := true } enum
        { name := "HTTP2_STATUS_OK_HTTP2_STATUS_OK_", number := 0 } = "HTTP2_STATUS_OK_" := by
  intro enum
  obtain ⟨_, hname, hwords⟩ := screamingName_marks_words "Http2StatusOk"
  obtain ⟨hstart, hmember⟩ := hwords ["Http2".toList, "Status".toList, "Ok".toList]
    (List.cons_ne_nil _ _) (by decide) (by decide) enum rfl
  exact ⟨hname.trans (by decide +kernel), hstart.trans (by decide),
    hmember { removeEnumPrefix := true } _ _ rfl (by decide)⟩

end EnumBindings
