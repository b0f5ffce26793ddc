import EnumBindings.Limits
import EnumBindings.Proofs.Options.Composition
import EnumBindings.Proofs.Options.Entry
import EnumBindings.Proofs.Text.Values
import EnumBindings.Proofs.Traversal
import Mathlib.Data.List.Induction

/-!
# The last entry for a field

Of several entries for one field the last counts, but all of them are checked. An option string is
accepted exactly if each visible entry gives a setting. Each field then holds what the last entry
for it gives, or keeps its value. Nothing else about an option string matters: neither white space
nor blank entries nor the order of entries for different fields.
-/

namespace EnumBindings

/-- The option string of some entries. -/
def optionString (entries : List (List Char)) : String :=
  String.ofList ([','].intercalate entries)

/-- Whether each visible entry gives a setting. -/
def Accepted (entries : List (List Char)) : Prop :=
  ∀ entry ∈ entries, ¬Text.IsBlankText entry → ∃ setting, Gives entry setting

/-- What the entries for a field are read as, in order. -/
def readingsFor (field : Field) (entries : List (List Char)) : List (Option Setting) :=
  (entries.filter (Names · field)).map fun entry =>
    field.denoted? (valueOf entry)

/-- Options in which the last entry for each field counts. -/
structure LastEntriesCount (base : Options) (entries : List (List Char)) (options : Options) :
    Prop where
  kept : ∀ field, (∀ entry ∈ entries, ¬Names entry field) → options.get field = base.get field
  last : ∀ field before entry behind, entries = before ++ entry :: behind → Names entry field →
    (∀ later ∈ behind, ¬Names later field) →
      field.read (String.ofList (keyOf entry)) (valueOf entry) = .ok (options.get field)

/-- Lists of entries that differ in layout only: an entry is spelled in another way, a blank entry
is put in, or entries change places, but not with entries for the same field. -/
inductive Relaid : List (List Char) → List (List Char) → Prop
  | respelled (before behind : List (List Char)) {entry other : List Char}
      (hspelled : Respells entry other) :
      Relaid (before ++ entry :: behind) (before ++ other :: behind)
  | blank (before behind : List (List Char)) {entry : List Char} (hblank : Text.IsBlankText entry) :
      Relaid (before ++ behind) (before ++ entry :: behind)
  | reordered {entries others : List (List Char)} (hplaces : entries.Perm others)
      (hfields : ∀ field, entries.filter (Names · field) = others.filter (Names · field)) :
      Relaid entries others
  | symm {entries others : List (List Char)} (hrelaid : Relaid entries others) :
      Relaid others entries
  | trans {entries others more : List (List Char)} (hfirst : Relaid entries others)
      (hsecond : Relaid others more) : Relaid entries more

variable {entries others : List (List Char)} {base options : Options}

namespace Options

/-- A field holds the last setting for it, or else keeps its value. -/
theorem get_setAll (base : Options) (settings : List Setting) (field : Field) :
    (base.setAll settings).get field =
      ((settings.filter (·.field = field)).getLast?).getD (base.get field) := by
  induction settings using List.reverseRecOn with
  | nil => rfl
  | append_singleton settings setting ih =>
    rw [setAll_append, List.filter_append]
    show ((base.setAll settings).set setting).get field = _
    by_cases hfield : setting.field = field
    · subst hfield
      simp
    · rw [get_set_of_ne _ (Ne.symm hfield), ih]
      simp [hfield]

end Options

/-- Whether an entry is more than white space. -/
def isVisible (entry : List Char) : Bool :=
  !(Text.trim entry).isEmpty

theorem isVisible_eq_true_iff {entry : List Char} :
    isVisible entry = true ↔ ¬Text.IsBlankText entry := by
  rw [isVisible, Bool.not_eq_true', ← Bool.not_eq_true, List.isEmpty_iff, Text.trim_eq_nil_iff,
    Text.IsBlankText]

/-- The entries of an option string are the visible ones that it was made of, trimmed. -/
theorem entries_optionString (hcomma : ∀ entry ∈ entries, ',' ∉ entry) :
    Setting.entries (optionString entries).toList =
      (entries.filter isVisible).map Text.trim := by
  have hvisible : (entries.map Text.trim).filter (!·.isEmpty) =
      (entries.filter isVisible).map Text.trim := List.filter_map
  rw [optionString, String.toList_ofList, Setting.entries, ← hvisible]
  by_cases hentries : entries = []
  · rw [hentries]
    rfl
  · rw [Text.pieces_intercalate hentries hcomma]

/-- An option string makes of options what the settings of its visible entries make of them. -/
theorem outcome_optionString_eq_ok_iff (hcomma : ∀ entry ∈ entries, ',' ∉ entry) :
    (Options.parse (some (optionString entries)) base).outcome = .ok options ↔
      ∃ settings, List.Forall₂ Gives (entries.filter isVisible) settings ∧
        base.setAll settings = options := by
  have hread (settings : List Setting) :
      ((entries.filter isVisible).map Text.trim).mapM Setting.ofEntry = .ok settings ↔
        List.Forall₂ Gives (entries.filter isVisible) settings := by
    rw [mapM_eq_ok_iff, List.forall₂_map_left_iff]
    simp only [ofEntry_eq_ok_iff, (respells_trim _).gives_iff]
  rw [Options.outcome_parse, entries_optionString hcomma]
  simp only [← hread]
  cases ((entries.filter isVisible).map Text.trim).mapM Setting.ofEntry with
  | error error => simp [Except.map]
  | ok settings => simp [Except.map]

/-- An option string leaves a field as it is, or sets it to what one of its entries gives. -/
theorem get_of_parse {parameter : Option String}
    (hparse : (Options.parse parameter base).outcome = .ok options) (field : Field) :
    options.get field = base.get field ∨
      ∃ entry, Setting.ofEntry entry = .ok (options.get field) := by
  cases parameter with
  | none => exact Or.inl (congrArg (·.get field) (Except.ok.inj hparse)).symm
  | some parameter =>
    rw [Options.outcome_parse] at hparse
    cases hread : (Setting.entries parameter.toList).mapM Setting.ofEntry with
    | error error => rw [hread] at hparse; cases hparse
    | ok settings =>
      rw [hread] at hparse
      obtain rfl : base.setAll settings = options := Except.ok.inj hparse
      have hget := Options.get_setAll base settings field
      cases hlast : (settings.filter (·.field = field)).getLast? with
      | none =>
        rw [hlast, Option.getD_none] at hget
        exact Or.inl hget
      | some setting =>
        rw [hlast, Option.getD_some] at hget
        have hsetting := List.mem_of_mem_filter (List.mem_of_getLast? hlast)
        obtain ⟨entry, _, hentry⟩ := exists_related_of_mem (mapM_eq_ok_iff.mp hread) hsetting
        exact Or.inr ⟨entry, by rw [hget, hentry]⟩

/-- An option string leaves the name of the sentinel as it is, or makes it an identifier. -/
theorem sentinelName_of_parse {parameter : Option String}
    (hparse : (Options.parse parameter base).outcome = .ok options) :
    options.sentinelName = base.sentinelName ∨
      Text.isIdentifier options.sentinelName.toList = true := by
  rcases get_of_parse hparse .sentinelName with hget | ⟨entry, hentry⟩
  · exact Or.inl (Setting.sentinelName.inj hget)
  · obtain ⟨_, hread⟩ := ofEntry_eq_ok_iff.mp hentry
    obtain ⟨hname, hsetting⟩ := Option.ite_none_right_eq_some.mp (Field.read_eq_ok_iff.mp hread)
    have hsame := Setting.sentinelName.inj (Option.some.inj hsetting)
    rw [← hsame, String.toList_ofList]
    exact Or.inr hname

/-- An option string leaves the code of the sentinel as it is, or makes it a number that is not too
long to be written. -/
theorem sentinelCode_of_parse {parameter : Option String}
    (hparse : (Options.parse parameter base).outcome = .ok options) (nesting : Nat) :
    options.sentinelCode = base.sentinelCode ∨
      (Limits.ordinary nesting).allowsNumber options.sentinelCode = true := by
  rcases get_of_parse hparse .sentinelCode with hget | ⟨entry, hentry⟩
  · exact Or.inl (Setting.sentinelCode.inj hget)
  · obtain ⟨_, hread⟩ := ofEntry_eq_ok_iff.mp hentry
    obtain ⟨code, hcode, hsetting⟩ := Option.map_eq_some_iff.mp (Field.read_eq_ok_iff.mp hread)
    rw [← Setting.sentinelCode.inj hsetting]
    exact Or.inr (Text.allowsNumber_ordinary_iff.mpr (Text.natAbs_lt_of_integer? hcode))

/-- Entries that give settings make of options what the settings make of them. -/
theorem parse_of_gives (hcomma : ∀ entry ∈ entries, ',' ∉ entry) {settings : List Setting}
    (hgives : List.Forall₂ Gives (entries.filter isVisible) settings) (base : Options) :
    (Options.parse (some (optionString entries)) base).outcome = .ok (base.setAll settings) :=
  (outcome_optionString_eq_ok_iff hcomma).mpr ⟨settings, hgives, rfl⟩

/-- Entries are accepted exactly if each visible one of them gives a setting. -/
theorem accepted_iff :
    Accepted entries ↔ ∃ settings, List.Forall₂ Gives (entries.filter isVisible) settings := by
  rw [exists_forall₂_iff]
  simp only [List.mem_filter, isVisible_eq_true_iff, and_imp]
  rfl

theorem readingsFor_append (field : Field) (first second : List (List Char)) :
    readingsFor field (first ++ second) = readingsFor field first ++ readingsFor field second := by
  rw [readingsFor, List.filter_append, List.map_append]
  rfl

theorem readingsFor_cons_of_names {entry : List Char} {field : Field} (hnames : Names entry field)
    (rest : List (List Char)) :
    readingsFor field (entry :: rest) =
      field.denoted? (valueOf entry) :: readingsFor field rest := by
  rw [readingsFor, List.filter_cons_of_pos (by simpa using hnames), List.map_cons]
  rfl

theorem readingsFor_cons_of_not_names {entry : List Char} {field : Field}
    (hnames : ¬Names entry field) (rest : List (List Char)) :
    readingsFor field (entry :: rest) = readingsFor field rest := by
  rw [readingsFor, List.filter_cons_of_neg (by simpa using hnames)]
  rfl

theorem readingsFor_eq_nil {field : Field} (hnames : ∀ entry ∈ entries, ¬Names entry field) :
    readingsFor field entries = [] := by
  rw [readingsFor, List.filter_eq_nil_iff.mpr (by simpa using hnames)]
  rfl

/-- The entries for a field are read as the settings for it. -/
theorem readingsFor_eq {settings : List Setting}
    (hgives : List.Forall₂ Gives (entries.filter isVisible) settings) (field : Field) :
    readingsFor field entries = (settings.filter (·.field = field)).map some := by
  induction entries generalizing settings with
  | nil =>
    cases hgives
    rfl
  | cons entry entries ih =>
    by_cases hblank : Text.IsBlankText entry
    · rw [List.filter_cons_of_neg (by simpa [isVisible_eq_true_iff] using hblank)] at hgives
      rw [readingsFor_cons_of_not_names (not_names_of_blank hblank field), ih hgives]
    · rw [List.filter_cons_of_pos (by simpa [isVisible_eq_true_iff] using hblank)] at hgives
      cases hgives with
      | @cons _ setting _ settings hentry hrest =>
        by_cases hfield : setting.field = field
        · have hread := Field.read_eq_ok_iff.mp hentry.2
          rw [readingsFor_cons_of_names (hentry.names_iff.mpr hfield), ih hrest, ← hfield, hread]
          simp
        · rw [readingsFor_cons_of_not_names (mt hentry.names_iff.mp hfield), ih hrest]
          simp [hfield]

/-- A field holds what the last entry for it is read as, or keeps its value. -/
theorem getLast?_readingsFor (hcomma : ∀ entry ∈ entries, ',' ∉ entry)
    (hparse : (Options.parse (some (optionString entries)) base).outcome = .ok options)
    (field : Field) :
    ((readingsFor field entries).getLast?).getD (some (base.get field)) =
      some (options.get field) := by
  obtain ⟨settings, hgives, rfl⟩ := (outcome_optionString_eq_ok_iff hcomma).mp hparse
  rw [readingsFor_eq hgives, List.getLast?_map, Options.get_setAll]
  cases (settings.filter (·.field = field)).getLast? <;> rfl

/-- In the options that an option string makes, the last entry for each field counts. -/
theorem lastEntriesCount_of_parse (hcomma : ∀ entry ∈ entries, ',' ∉ entry)
    (hparse : (Options.parse (some (optionString entries)) base).outcome = .ok options) :
    LastEntriesCount base entries options where
  kept := by
    intro field hnames
    have hlast := getLast?_readingsFor hcomma hparse field
    rw [readingsFor_eq_nil hnames] at hlast
    exact (Option.some.inj hlast).symm
  last := by
    rintro field before entry behind rfl hnames hbehind
    have hlast := getLast?_readingsFor hcomma hparse field
    rw [readingsFor_append, readingsFor_cons_of_names hnames, readingsFor_eq_nil hbehind,
      List.getLast?_concat, Option.getD_some] at hlast
    exact Field.read_eq_ok_iff.mpr hlast

namespace Relaid

/-- The entries for a field are read alike, whatever the layout. -/
theorem readingsFor_eq (hrelaid : Relaid entries others) (field : Field) :
    readingsFor field entries = readingsFor field others := by
  induction hrelaid with
  | @respelled before behind entry other hspelled =>
    rw [readingsFor_append, readingsFor_append]
    by_cases hnames : Names entry field
    · have hvalue := @Field.denoted?_congr field _ _ hspelled.keyOf_valueOf_eq.2
      rw [readingsFor_cons_of_names hnames,
        readingsFor_cons_of_names (hspelled.names_iff.mp hnames), hvalue]
    · rw [readingsFor_cons_of_not_names hnames,
        readingsFor_cons_of_not_names (mt hspelled.names_iff.mpr hnames)]
  | blank before behind hblank =>
    rw [readingsFor_append, readingsFor_append,
      readingsFor_cons_of_not_names (not_names_of_blank hblank field)]
  | reordered _ hfields => rw [readingsFor, readingsFor, hfields]
  | symm _ ih => exact ih.symm
  | trans _ _ ihfirst ihsecond => exact ihfirst.trans ihsecond

/-- Entries are accepted or not, whatever their layout. -/
theorem accepted_iff (hrelaid : Relaid entries others) : Accepted entries ↔ Accepted others := by
  unfold Accepted
  induction hrelaid with
  | respelled before behind hspelled =>
    have hblank := hspelled.trim_eq_nil_iff
    rw [Text.trim_eq_nil_iff, Text.trim_eq_nil_iff] at hblank
    simp only [List.forall_mem_append, List.forall_mem_cons, Text.IsBlankText, hblank,
      hspelled.gives_iff]
  | blank before behind hblank => simp [or_imp, forall_and, hblank]
  | reordered hplaces _ => simp only [hplaces.mem_iff]
  | symm _ ih => exact ih.symm
  | trans _ _ ihfirst ihsecond => exact ihfirst.trans ihsecond

/-- Entries have commas or not, whatever their layout. -/
theorem comma_iff (hrelaid : Relaid entries others) :
    (∀ entry ∈ entries, ',' ∉ entry) ↔ ∀ entry ∈ others, ',' ∉ entry := by
  induction hrelaid with
  | respelled before behind hspelled =>
    simp only [List.forall_mem_append, List.forall_mem_cons, hspelled.comma_mem_iff]
  | @blank before behind entry hblank =>
    have hcomma : ',' ∉ entry := hblank.notMem (by decide)
    simp [or_imp, forall_and, hcomma]
  | reordered hplaces _ => simp only [hplaces.mem_iff]
  | symm _ ih => exact ih.symm
  | trans _ _ ihfirst ihsecond => exact ihfirst.trans ihsecond

end Relaid

/-- Layout does not matter to the options that an option string makes. -/
theorem parse_eq_ok_of_relaid (hrelaid : Relaid entries others)
    (hcomma : ∀ entry ∈ entries, ',' ∉ entry)
    (hparse : (Options.parse (some (optionString entries)) base).outcome = .ok options) :
    (Options.parse (some (optionString others)) base).outcome = .ok options := by
  have hothers := hrelaid.comma_iff.mp hcomma
  obtain ⟨given, hgiven, _⟩ := (outcome_optionString_eq_ok_iff hcomma).mp hparse
  have haccepted := hrelaid.accepted_iff.mp (accepted_iff.mpr ⟨given, hgiven⟩)
  obtain ⟨settings, hgives⟩ := accepted_iff.mp haccepted
  have hother := parse_of_gives hothers hgives base
  have hsame : base.setAll settings = options := by
    apply Options.ext_get
    intro field
    have hlast := getLast?_readingsFor hothers hother field
    rw [← hrelaid.readingsFor_eq field, getLast?_readingsFor hcomma hparse field] at hlast
    exact (Option.some.inj hlast).symm
  rw [hother, hsame]

/-- An option string is accepted exactly if each visible entry gives a setting, those that are
overridden included. Then each field holds what the last entry for it gives, or keeps its value. The
layout of the entries makes no difference. -/
theorem parse_lastEntry (base : Options) (entries : List (List Char))
    (hcomma : ∀ entry ∈ entries, ',' ∉ entry) :
    ((∃ options, (Options.parse (some (optionString entries)) base).outcome = .ok options) ↔
        Accepted entries) ∧
      (∀ options, (Options.parse (some (optionString entries)) base).outcome = .ok options →
        LastEntriesCount base entries options) ∧
      ∀ others, Relaid entries others →
        (Options.parse (some (optionString others)) base).outcome.toOption =
          (Options.parse (some (optionString entries)) base).outcome.toOption := by
  refine ⟨?_, fun options => lastEntriesCount_of_parse hcomma, fun others hrelaid => ?_⟩
  · rw [accepted_iff]
    simp only [outcome_optionString_eq_ok_iff hcomma]
    constructor
    · rintro ⟨_, settings, hgives, _⟩
      exact ⟨settings, hgives⟩
    · rintro ⟨settings, hgives⟩
      exact ⟨_, settings, hgives, rfl⟩
  · have hothers := hrelaid.comma_iff.mp hcomma
    cases hentries : (Options.parse (some (optionString entries)) base).outcome with
    | ok options => rw [parse_eq_ok_of_relaid hrelaid hcomma hentries]
    | error error =>
      cases hother : (Options.parse (some (optionString others)) base).outcome with
      | error _ => rfl
      | ok options =>
        rw [parse_eq_ok_of_relaid hrelaid.symm hothers hother] at hentries
        cases hentries

/-- A flag is turned off and on again in another spelling, and the entry between for another flag is
moved to the front. -/
theorem parse_lastEntry_overridden :
    (∃ options, (Options.parse (some "stringEnums=no,comments,string-enums = yes") {}).outcome =
        .ok options ∧ options.get (.flag .stringEnums) = .flag .stringEnums true) ∧
      (Options.parse (some "comments,stringEnums=no,string-enums = yes") {}).outcome.toOption =
        (Options.parse (some "stringEnums=no,comments,string-enums = yes")
          {}).outcome.toOption := by
  have hoff : Gives "stringEnums=no".toList (.flag .stringEnums false) := ⟨by decide +kernel, rfl⟩
  have hcomments : Gives "comments".toList (.flag .comments true) := ⟨by decide +kernel, rfl⟩
  have hon : Gives "string-enums = yes".toList (.flag .stringEnums true) := ⟨by decide +kernel, rfl⟩
  obtain ⟨haccepted, hlast, hlayout⟩ := parse_lastEntry {}
    ["stringEnums=no".toList, "comments".toList, "string-enums = yes".toList] (by decide)
  constructor
  · obtain ⟨options, hparse⟩ := haccepted.mpr (List.forall_mem_cons.mpr ⟨fun _ => ⟨_, hoff⟩,
      List.forall_mem_cons.mpr ⟨fun _ => ⟨_, hcomments⟩,
        List.forall_mem_singleton.mpr fun _ => ⟨_, hon⟩⟩⟩)
    have hread := (hlast options hparse).last (.flag .stringEnums)
      ["stringEnums=no".toList, "comments".toList] "string-enums = yes".toList [] rfl hon.1
      (by simp)
    exact ⟨options, hparse, (Except.ok.inj (hon.2.symm.trans hread)).symm⟩
  · refine hlayout ["comments".toList, "stringEnums=no".toList, "string-enums = yes".toList]
      (.reordered (by decide) fun field => ?_)
    -- The two entries that change places are for different fields.
    by_cases hfield : Names "comments".toList field
    · have hother : ¬Names "stringEnums=no".toList field := fun h =>
        absurd ((hcomments.1.unique hfield).trans (h.unique hoff.1)) (by decide)
      simp only [List.filter_cons, hother, decide_false, Bool.false_eq_true, if_false]
    · simp only [List.filter_cons, hfield, decide_false, Bool.false_eq_true, if_false]

end EnumBindings
