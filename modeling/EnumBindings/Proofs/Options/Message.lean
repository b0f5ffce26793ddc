import EnumBindings.Proofs.Options.Entry
import EnumBindings.Proofs.Text.QuotedReading

/-!
# The message of a refused option

A message names what is wrong and for which option, and shows the value that was given as a literal.
The literal is visible on one line and denotes the value, or the beginning of a long one, so that no
two values that are shown whole have one message; the error itself keeps the value as it was given.
-/

namespace EnumBindings

variable {key : String} {raw entry : List Char} {field : Field} {error : OptionsError}

/-- The error for a text that is no value of a field keeps the whole text. -/
theorem Field.value_of_read (hread : field.read key raw = .error error) :
    error.option = some key ∧ error.value = some (String.ofList raw) := by
  cases field <;>
  · rw [read] at hread
    split at hread
    · cases hread
    · cases hread
      exact ⟨rfl, rfl⟩

/-- The error of an entry keeps the whole value of the entry, unless the entry names no field. -/
theorem Setting.value_of_ofEntry (hentry : Setting.ofEntry entry = .error error) :
    error = ⟨.unknownOption, some (String.ofList (keyOf entry)), none⟩ ∨
      error.option = some (String.ofList (keyOf entry)) ∧
        error.value = some (String.ofList (valueOf entry)) := by
  by_cases hnames : ∃ field, Names entry field
  · obtain ⟨field, hfield⟩ := hnames
    rw [ofEntry_of_names hfield] at hentry
    exact Or.inr (Field.value_of_read hentry)
  · rw [ofEntry_of_not_names fun field h => hnames ⟨field, h⟩] at hentry
    exact Or.inl (Except.error.inj hentry).symm

namespace OptionsError

variable {fault : OptionsFault} {option : Option String} {value other : String}

/-- A value behind a message stands there as a literal. -/
theorem message_eq_append (fault : OptionsFault) (option : Option String) (value : String) :
    (OptionsError.mk fault option (some value)).message =
      (OptionsError.mk (.other fault.message) option none).message ++ ": " ++
        String.ofList (Text.quoted (shownValue value.toList)) :=
  rfl

/-- A value is shown whole if it is not too long. -/
theorem shownValue_eq (value : String) :
    shownValue value.toList =
      if value.length ≤ 60 then value.toList else value.toList.take 57 ++ ['.', '.', '.'] := by
  rw [shownValue, shownLength, String.length_toList]
  by_cases hlength : value.length ≤ 60
  · rw [if_pos hlength, if_neg (Nat.not_lt.mpr hlength)]
  · rw [if_neg hlength, if_pos (Nat.not_le.mp hlength)]

/-- Values that are shown whole are known by their messages. -/
theorem eq_of_message_eq (hvalue : value.length ≤ 60) (hother : other.length ≤ 60)
    (heq : (OptionsError.mk fault option (some value)).message =
      (OptionsError.mk fault option (some other)).message) : value = other := by
  rw [message_eq_append, message_eq_append, String.append_right_inj, String.ofList_inj] at heq
  have hshown := Text.quoted_injective heq
  rw [shownValue_eq, shownValue_eq, if_pos hvalue, if_pos hother] at hshown
  exact String.toList_inj.mp hshown

/-- A message shows the value faithfully, behind a part that depends on the message and the option
only. The literal neither breaks the line nor has a control character, and denotes the value if it
is not too long, and otherwise its first characters and three dots, whatever the names of characters
are. Two values that are shown whole are told apart, and the errors of entries keep their values as
they are. -/
theorem message_shows_value (named : List Char → Option Nat) (fault : OptionsFault)
    (option : Option String) (value : String) :
    (∃ literal : String,
      (OptionsError.mk fault option (some value)).message =
        (OptionsError.mk (.other fault.message) option none).message ++ ": " ++ literal ∧
      (∀ c ∈ literal.toList, Text.isLineBreak c = false ∧ Text.isControl c = false) ∧
      Text.Denotes named literal.toList
        ((if value.length ≤ 60 then value.toList
          else value.toList.take 57 ++ ['.', '.', '.']).map Char.toNat)) ∧
    (∀ other : String, value.length ≤ 60 → other.length ≤ 60 →
      (OptionsError.mk fault option (some value)).message =
        (OptionsError.mk fault option (some other)).message → value = other) ∧
    (OptionsError.mk fault option (some value)).value = some value ∧
    ∀ (entry : List Char) (error : OptionsError), Setting.ofEntry entry = .error error →
      error = ⟨.unknownOption, some (String.ofList (keyOf entry)), none⟩ ∨
        error.option = some (String.ofList (keyOf entry)) ∧
          error.value = some (String.ofList (valueOf entry)) := by
  have hshown := Text.denotes_quoted named (shownValue value.toList)
  have hvisible := Text.isPrintable_quoted (shownValue value.toList)
  refine ⟨⟨_, message_eq_append fault option value, ?_, ?_⟩, ?_, rfl, ?_⟩
  · rw [String.toList_ofList]
    exact fun c hc => Text.visible_of_isPrintable (hvisible c hc)
  · rw [String.toList_ofList, ← shownValue_eq]
    exact hshown
  · exact fun other => eq_of_message_eq
  · exact fun entry error => Setting.value_of_ofEntry

/-- A line feed and a backslash with a letter are told apart, and a single quote makes the quotes
double. -/
theorem message_shows_value_quote :
    (OptionsError.mk .notBoolean (some "stringEnums") (some "o'\n")).message =
        "Expected a boolean for option 'stringEnums': \"o'\\n\"" ∧
      (OptionsError.mk .notBoolean (some "stringEnums") (some "o'\n")).message ≠
        (OptionsError.mk .notBoolean (some "stringEnums") (some "o'\\n")).message := by
  obtain ⟨_, hinjective, _⟩ :=
    message_shows_value (fun _ => none) .notBoolean (some "stringEnums") "o'\n"
  refine ⟨by decide, fun heq => ?_⟩
  exact absurd (hinjective "o'\\n" (by decide) (by decide) heq) (by decide)

end OptionsError

end EnumBindings
