import EnumBindings.Options.Parameter
import EnumBindings.Proofs.Text.Trimming

/-!
# Option strings one after the other

What an option string does to options depends on its entries only, and a comma keeps the entries on
its two sides apart. Two option strings with a comma between them do what the first does and then
the second, and whichever of them is at fault first is reported.
-/

namespace EnumBindings

namespace Setting

/-- A comma keeps the entries on its two sides apart. -/
theorem entries_append_cons (first second : List Char) :
    entries (first ++ ',' :: second) = entries first ++ entries second := by
  unfold entries
  rw [Text.pieces_append_cons, List.map_append, List.filter_append]

/-- Blank text has no entries, however many commas are in it. -/
theorem entries_of_blank {parameter : List Char} (hblank : Text.trim parameter = []) :
    entries parameter = [] := by
  rw [Text.trim_eq_nil_iff] at hblank
  unfold entries
  rw [List.filter_eq_nil_iff, List.forall_mem_map]
  intro piece hpiece
  have hpart : Text.trim piece = [] := Text.trim_eq_nil_iff.mpr fun c hc =>
    hblank c ((Text.infix_of_mem_pieces hpiece).subset hc)
  rw [hpart]
  decide

/-- Entries are read in order, up to the first that is at fault. -/
theorem outcome_readEntries (entries : List (List Char)) :
    (readEntries entries).outcome = entries.mapM ofEntry := by
  induction entries with
  | nil => rfl
  | cons entry entries ih =>
    rw [readEntries, List.mapM_cons, ← ih]
    simp only [Reported.outcome_bind, Reported.outcome_ofExcept, Reported.outcome_report,
      Reported.outcome_pure]
    rfl

end Setting

namespace Options

/-- Settings in two lists are applied one list after the other. -/
theorem setAll_append (options : Options) (first second : List Setting) :
    options.setAll (first ++ second) = (options.setAll first).setAll second :=
  List.foldl_append

/-- What an option string makes of options is settled by its entries, blank or not. -/
theorem outcome_parse (parameter : String) (base : Options) :
    (parse (some parameter) base).outcome =
      ((Setting.entries parameter.toList).mapM Setting.ofEntry).map base.setAll := by
  rw [parse]
  by_cases hblank : Text.trim parameter.toList = []
  · rw [if_pos (List.isEmpty_iff.mpr hblank), Setting.entries_of_blank hblank]
    rfl
  · rw [if_neg (mt List.isEmpty_iff.mp hblank), ← Setting.outcome_readEntries]
    simp only [Reported.outcome_bind, Reported.outcome_reportAll, Reported.outcome_pure]
    cases (Setting.readEntries (Setting.entries parameter.toList)).outcome <;> rfl

/-- Two option strings with a comma between them, whether blank or malformed, have the outcome of
the first and then of the second on the options that it made. If the first is at fault, so is the
whole, with the same error. -/
theorem outcome_parse_append (first second : String) (base : Options) :
    (parse (some (first ++ "," ++ second)) base).outcome =
      (parse (some first) base).outcome >>= fun options =>
        (parse (some second) options).outcome := by
  have hcomma : (first ++ "," ++ second).toList = first.toList ++ ',' :: second.toList := by
    simp
  rw [outcome_parse, hcomma, Setting.entries_append_cons, List.mapM_append, outcome_parse]
  -- Neither side goes on behind a first string that is at fault.
  cases (Setting.entries first.toList).mapM Setting.ofEntry with
  | error error => rfl
  | ok settings =>
    show Except.map base.setAll (_ >>= fun others => pure (settings ++ others)) =
      (parse (some second) (base.setAll settings)).outcome
    rw [outcome_parse]
    cases (Setting.entries second.toList).mapM Setting.ofEntry with
    | error error => rfl
    | ok others => exact congrArg Except.ok (setAll_append base settings others)

end Options

end EnumBindings
