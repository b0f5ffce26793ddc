import EnumBindings.Json.Reader
import Mathlib.Algebra.Ring.Int.Defs
import Mathlib.Data.List.Basic

/-!
# What the machine keeps

The machine that reads a document takes one token after the other. Each token makes it open or close
at most one list or object, and puts only its own value among those that are complete. So the
machine meets too much nesting only where the tokens open so many lists and objects, and a property
of plain values that lists and objects pass on holds of the document that is read.
-/

namespace EnumBindings

/-- How many lists and objects a token opens, less those that it closes. -/
def Token.rise : Token → Int
  | .openList => 1
  | .openObject => 1
  | .closeList => -1
  | .closeObject => -1
  | _ => 0

namespace Reading

variable {frames : List Frame} {state next : Reading} {token : Token}

/-- How a value begins with a token. -/
inductive BeginsWith (frames : List Frame) : Token → Reading → Prop
  | openList : BeginsWith frames .openList (.atFirstItem frames)
  | openObject : BeginsWith frames .openObject (.atFirstKey frames)
  | text (content : String) :
      BeginsWith frames (.quoted content) (.afterValue (.text content) frames)
  | plain (value : Json) : BeginsWith frames (.plain value) (.afterValue value frames)

/-- How a token is taken. -/
inductive Takes : Reading → Token → Reading → Prop
  | value {frames : List Frame} {token : Token} {next : Reading} :
      BeginsWith frames token next → Takes (.atValue frames) token next
  | firstItem {frames : List Frame} {token : Token} {next : Reading} :
      BeginsWith (.list [] :: frames) token next → Takes (.atFirstItem frames) token next
  | emptyList (frames : List Frame) :
      Takes (.atFirstItem frames) .closeList (.afterValue (.list []) frames)
  | emptyObject (frames : List Frame) :
      Takes (.atFirstKey frames) .closeObject (.afterValue (.object []) frames)
  | firstKey (key : String) (frames : List Frame) :
      Takes (.atFirstKey frames) (.quoted key) (.atColon [] key frames)
  | key (key : String) (fields : List (String × Json)) (frames : List Frame) :
      Takes (.atKey fields frames) (.quoted key) (.atColon fields key frames)
  | colon (fields : List (String × Json)) (key : String) (frames : List Frame) :
      Takes (.atColon fields key frames) .colon (.atValue (.object fields key :: frames))
  | nextItem (value : Json) (items : List Json) (frames : List Frame) :
      Takes (.afterValue value (.list items :: frames)) .comma
        (.atValue (.list (value :: items) :: frames))
  | closeList (value : Json) (items : List Json) (frames : List Frame) :
      Takes (.afterValue value (.list items :: frames)) .closeList
        (.afterValue (.list (value :: items).reverse) frames)
  | nextField (value : Json) (fields : List (String × Json)) (key : String) (frames : List Frame) :
      Takes (.afterValue value (.object fields key :: frames)) .comma
        (.atKey ((key, value) :: fields) frames)
  | closeObject (value : Json) (fields : List (String × Json)) (key : String)
      (frames : List Frame) :
      Takes (.afterValue value (.object fields key :: frames)) .closeObject
        (.afterValue (.object ((key, value) :: fields).reverse) frames)

/-- The first token of a value is one of four. -/
theorem beginsWith_of_begin? (hbegin : begin? frames token = some next) :
    BeginsWith frames token next := by
  unfold begin? at hbegin
  split at hbegin <;> cases hbegin <;> constructor

/-- A token that is due is taken in one of these ways. -/
theorem takes_of_step? (hstep : state.step? token = some next) : Takes state token next := by
  unfold step? at hstep
  split at hstep
  case h_1 => exact .value (beginsWith_of_begin? hstep)
  case h_2 => cases hstep; exact .emptyList _
  case h_3 => exact .firstItem (beginsWith_of_begin? hstep)
  all_goals cases hstep <;> constructor

/-! ## Runs -/

section Run

variable {limits : Limits} {stop offset : Nat} {document : Json} {error : ReadError}
  {rest : List (Nat × Token)}

/-- Where the tokens run out, the value that is complete is given. -/
theorem run_nil_eq_ok_iff :
    run limits stop state [] = .ok document ↔ state = .afterValue document [] := by
  cases state with
  | afterValue value frames => cases frames <;> simp [run]
  | _ => simp [run]

/-- Where the tokens run out too early, the text is malformed. -/
theorem exists_malformed_of_run_nil (hrun : run limits stop state [] = .error error) :
    ∃ fault, error = .malformed fault stop := by
  cases state with
  | afterValue value frames =>
    cases frames with
    | nil => cases hrun
    | cons frame frames => exact ⟨_, (Except.error.inj hrun).symm⟩
  | _ => exact ⟨_, (Except.error.inj hrun).symm⟩

/-- A document is given exactly if the first token is taken, not too much is open then, and the
document is given for the rest. -/
theorem run_cons_eq_ok_iff :
    run limits stop state ((offset, token) :: rest) = .ok document ↔
      ∃ next, state.step? token = some next ∧ limits.allowsDepth next.depth = true ∧
        run limits stop next rest = .ok document := by
  cases hstep : state.step? token with
  | none => simp [run_cons_of_refused hstep]
  | some next => cases hdepth : limits.allowsDepth next.depth <;> simp [run_cons hstep, hdepth]

/-- An error is met at the first token, which is refused or opens too much, or in the rest. -/
theorem run_cons_eq_error (hrun : run limits stop state ((offset, token) :: rest) = .error error) :
    error = state.refuse offset token ∨
      ∃ next, state.step? token = some next ∧
        (limits.allowsDepth next.depth = false ∧ error = .tooDeep token.container ∨
          run limits stop next rest = .error error) := by
  cases hstep : state.step? token with
  | none =>
    rw [run_cons_of_refused hstep] at hrun
    exact Or.inl (Except.error.inj hrun).symm
  | some next =>
    rw [run_cons hstep] at hrun
    cases hdepth : limits.allowsDepth next.depth with
    | false =>
      rw [hdepth, if_neg Bool.false_ne_true] at hrun
      exact Or.inr ⟨next, rfl, Or.inl ⟨hdepth, (Except.error.inj hrun).symm⟩⟩
    | true =>
      rw [hdepth, if_pos rfl] at hrun
      exact Or.inr ⟨next, rfl, Or.inr hrun⟩

/-- A token is refused as malformed, or as too long an integer if it is one. -/
theorem refuse_cases (state : Reading) (offset : Nat) (token : Token) :
    (∃ fault place, state.refuse offset token = .malformed fault place) ∨
      ∃ digits, token = .broken (.longInteger digits) ∧
        state.refuse offset token = .longInteger digits := by
  unfold refuse
  split
  · split <;> exact Or.inl ⟨_, _, rfl⟩
  · split
    · exact Or.inr ⟨_, rfl, rfl⟩
    · exact Or.inl ⟨_, _, rfl⟩
  · exact Or.inl ⟨_, _, rfl⟩

end Run

/-! ## Nesting -/

theorem BeginsWith.depth_eq (hbegins : BeginsWith frames token next) :
    (next.depth : Int) = frames.length + token.rise := by
  cases hbegins <;> simp [depth, Token.rise]

/-- A token that is taken opens or closes what it says. -/
theorem Takes.depth_eq (htakes : Takes state token next) :
    (next.depth : Int) = state.depth + token.rise := by
  cases htakes with
  | value hbegins => exact hbegins.depth_eq
  | firstItem hbegins => exact hbegins.depth_eq
  | _ =>
    simp only [depth, Token.rise, List.length_cons]
    omega

/-- Where the machine meets too much nesting, the tokens open more than is allowed. -/
theorem exists_rise_of_run {limits : Limits} {stop : Nat} {container : Container}
    {tokens : List (Nat × Token)} :
    ∀ {state : Reading}, run limits stop state tokens = .error (.tooDeep container) →
      ∃ earlier later : List (Nat × Token), ∃ depth : Nat, tokens = earlier ++ later ∧
        (depth : Int) = state.depth + (earlier.map (·.2.rise)).sum ∧
        limits.allowsDepth depth = false := by
  induction tokens with
  | nil =>
    intro state hrun
    obtain ⟨fault, ⟨⟩⟩ := exists_malformed_of_run_nil hrun
  | cons first rest ih =>
    obtain ⟨offset, token⟩ := first
    intro state hrun
    rcases run_cons_eq_error hrun with hrefused | ⟨next, hstep, hnext⟩
    · rcases refuse_cases state offset token with ⟨_, _, hother⟩ | ⟨_, _, hother⟩ <;>
        cases hrefused.trans hother
    · have hdepth := (takes_of_step? hstep).depth_eq
      rcases hnext with ⟨hdeep, _⟩ | hrun
      · exact ⟨[(offset, token)], rest, next.depth, rfl, by simpa using hdepth, hdeep⟩
      · obtain ⟨earlier, later, depth, rfl, hsum, hdeep⟩ := ih hrun
        refine ⟨(offset, token) :: earlier, later, depth, rfl, ?_, hdeep⟩
        rw [List.map_cons, List.sum_cons, hsum, hdepth]
        exact Int.add_assoc _ _ _

/-- What is read within limits is read without them. -/
theorem run_unlimited {limits : Limits} {stop : Nat} {document : Json}
    {tokens : List (Nat × Token)} :
    ∀ {state : Reading}, run limits stop state tokens = .ok document →
      run {} stop state tokens = .ok document := by
  induction tokens with
  | nil =>
    intro state hrun
    rwa [run_nil_eq_ok_iff] at hrun ⊢
  | cons first rest ih =>
    intro state hrun
    obtain ⟨next, hstep, _, hrest⟩ := run_cons_eq_ok_iff.mp hrun
    exact run_cons_eq_ok_iff.mpr ⟨next, hstep, Limits.allowsDepth_unlimited _, ih hrest⟩

end Reading

/-- What is read within limits is read without them. -/
theorem Json.read_unlimited {text : List Char} {limits : Limits} {document : Json}
    (hread : Json.read text limits = .ok document) : Json.read text = .ok document := by
  unfold Json.read at hread ⊢
  split at hread
  · cases hread
  · rename_i hmark
    rw [if_neg hmark]
    exact Reading.run_unlimited hread

/-- A text in which more than so many lists and objects are open at some place. -/
def NestsDeeper (text : List Char) (nesting : Nat) : Prop :=
  ∃ earlier later, Token.scan 0 0 text = earlier ++ later ∧
    (nesting : Int) < (earlier.map (·.2.rise)).sum

/-- Too much nesting is reported only where lists and objects are nested so deep. -/
theorem Json.nestsDeeper_of_read {text : List Char} {limits : Limits} {container : Container}
    (hread : Json.read text limits = .error (.tooDeep container)) :
    ∃ nesting, limits.nesting = some nesting ∧ NestsDeeper text nesting := by
  unfold Json.read at hread
  split at hread
  · cases hread
  · obtain ⟨earlier, later, depth, hscan, hsum, hdeep⟩ := Reading.exists_rise_of_run hread
    obtain ⟨nesting, hnesting, hlt⟩ := Limits.exists_nesting_of_allowsDepth hdeep
    refine ⟨nesting, hnesting, earlier, later, hscan, ?_⟩
    have hstart : (Reading.atValue []).depth = 0 := rfl
    rw [hstart] at hsum
    omega

/-- Lists that are opened one in the other are too much when there are more of them than may be. -/
theorem Reading.run_brackets {nesting : Nat} (stop : Nat) {count : Nat} :
    ∀ (frames : List Frame) (offset : Nat), frames.length < nesting →
      nesting < frames.length + 1 + count →
      run (.ordinary nesting) stop (.atFirstItem frames)
        (Token.scan offset 0 (List.replicate count '[')) = .error (.tooDeep .list) := by
  induction count with
  | zero =>
    intro frames offset hopen hcount
    omega
  | succ count ih =>
    intro frames offset hopen hcount
    have hstep : (Reading.atFirstItem frames).step? .openList =
        some (.atFirstItem (.list [] :: frames)) := rfl
    rw [List.replicate_succ]
    show run _ stop _ ((offset, .openList) :: Token.scan (offset + 1) 0 _) = _
    rw [run_cons hstep]
    simp only [Limits.allowsDepth_ordinary, decide_eq_true_eq, depth, List.length_cons]
    split
    · refine ih (.list [] :: frames) (offset + 1) ?_ ?_ <;> rw [List.length_cons] <;> omega
    · rfl

/-- A text of more opening brackets than lists may be open is nested too deep. -/
theorem Json.read_brackets {nesting count : Nat} (hcount : nesting < count) :
    Json.read (List.replicate count '[') (.ordinary nesting) = .error (.tooDeep .list) := by
  obtain ⟨count, rfl⟩ := Nat.exists_eq_succ_of_ne_zero (Nat.ne_zero_of_lt hcount)
  have hmark : ¬(List.replicate (count + 1) '[').head? = some '\uFEFF' := by
    rw [List.replicate_succ, List.head?_cons]
    decide
  have hstep : (Reading.atValue []).step? .openList = some (.atFirstItem []) := rfl
  unfold Json.read
  rw [if_neg hmark, List.replicate_succ]
  show Reading.run _ _ _ ((0, .openList) :: Token.scan 1 0 _) = _
  rw [Reading.run_cons hstep]
  simp only [Limits.allowsDepth_ordinary, decide_eq_true_eq, Reading.depth]
  split
  · rename_i hopen
    exact Reading.run_brackets _ [] 1 hopen (by rw [List.length_nil]; omega)
  · rfl

/-! ## Values -/

/-- A property of documents that texts have and that lists and objects have if their parts do. -/
structure Json.PassedOn (property : Json → Prop) : Prop where
  text : ∀ content, property (.text content)
  list : ∀ items, (∀ item ∈ items, property item) → property (.list items)
  object : ∀ fields : List (String × Json), (∀ field ∈ fields, property field.2) →
    property (.object fields)

/-- The complete values of a list or an object that is not yet closed have a property. -/
def Frame.Holds (property : Json → Prop) : Frame → Prop
  | .list items => ∀ item ∈ items, property item
  | .object fields _ => ∀ field ∈ fields, property field.2

namespace Reading

variable {property : Json → Prop}

/-- All complete values have a property. -/
def Holds (property : Json → Prop) : Reading → Prop
  | .atValue frames => ∀ frame ∈ frames, frame.Holds property
  | .atFirstItem frames => ∀ frame ∈ frames, frame.Holds property
  | .atFirstKey frames => ∀ frame ∈ frames, frame.Holds property
  | .atKey fields frames =>
    (∀ field ∈ fields, property field.2) ∧ ∀ frame ∈ frames, frame.Holds property
  | .atColon fields _ frames =>
    (∀ field ∈ fields, property field.2) ∧ ∀ frame ∈ frames, frame.Holds property
  | .afterValue value frames => property value ∧ ∀ frame ∈ frames, frame.Holds property

theorem BeginsWith.holds (hbegins : BeginsWith frames token next)
    (hproperty : Json.PassedOn property)
    (hplain : ∀ value, token = .plain value → property value)
    (hframes : ∀ frame ∈ frames, frame.Holds property) : next.Holds property := by
  cases hbegins with
  | openList => exact hframes
  | openObject => exact hframes
  | text content => exact ⟨hproperty.text content, hframes⟩
  | plain value => exact ⟨hplain value rfl, hframes⟩

/-- A token that is taken leaves the property with all complete values. -/
theorem Takes.holds (htakes : Takes state token next) (hproperty : Json.PassedOn property)
    (hplain : ∀ value, token = .plain value → property value) (hstate : state.Holds property) :
    next.Holds property := by
  cases htakes with
  | value hbegins => exact hbegins.holds hproperty hplain hstate
  | firstItem hbegins =>
    exact hbegins.holds hproperty hplain (List.forall_mem_cons.mpr ⟨List.forall_mem_nil _, hstate⟩)
  | emptyList frames => exact ⟨hproperty.list [] (List.forall_mem_nil _), hstate⟩
  | emptyObject frames => exact ⟨hproperty.object [] (List.forall_mem_nil _), hstate⟩
  | firstKey key frames => exact ⟨List.forall_mem_nil _, hstate⟩
  | key key fields frames => exact hstate
  | colon fields key frames => exact List.forall_mem_cons.mpr hstate
  | nextItem value items frames =>
    obtain ⟨hvalue, hframes⟩ := hstate
    obtain ⟨hitems, hframes⟩ := List.forall_mem_cons.mp hframes
    exact List.forall_mem_cons.mpr ⟨List.forall_mem_cons.mpr ⟨hvalue, hitems⟩, hframes⟩
  | closeList value items frames =>
    obtain ⟨hvalue, hframes⟩ := hstate
    obtain ⟨hitems, hframes⟩ := List.forall_mem_cons.mp hframes
    have hall := List.forall_mem_cons.mpr ⟨hvalue, hitems⟩
    exact ⟨hproperty.list _ fun item hitem => hall item (List.mem_reverse.mp hitem), hframes⟩
  | nextField value fields key frames =>
    obtain ⟨hvalue, hframes⟩ := hstate
    obtain ⟨hfields, hframes⟩ := List.forall_mem_cons.mp hframes
    exact ⟨List.forall_mem_cons.mpr ⟨hvalue, hfields⟩, hframes⟩
  | closeObject value fields key frames =>
    obtain ⟨hvalue, hframes⟩ := hstate
    obtain ⟨hfields, hframes⟩ := List.forall_mem_cons.mp hframes
    have hall : ∀ field ∈ (key, value) :: fields, property field.2 :=
      List.forall_mem_cons.mpr ⟨hvalue, hfields⟩
    exact ⟨hproperty.object _ fun field hfield => hall field (List.mem_reverse.mp hfield), hframes⟩

/-- What the plain values have, the document has that is read. -/
theorem holds_of_run {limits : Limits} {stop : Nat} {document : Json}
    {tokens : List (Nat × Token)} (hproperty : Json.PassedOn property)
    (hplain : ∀ offset value, (offset, Token.plain value) ∈ tokens → property value) :
    ∀ {state : Reading}, state.Holds property → run limits stop state tokens = .ok document →
      property document := by
  induction tokens with
  | nil =>
    intro state hstate hrun
    obtain rfl := run_nil_eq_ok_iff.mp hrun
    exact hstate.1
  | cons first rest ih =>
    intro state hstate hrun
    obtain ⟨next, hstep, _, hrest⟩ := run_cons_eq_ok_iff.mp hrun
    refine ih ?_ ((takes_of_step? hstep).holds hproperty ?_ hstate) hrest
    · exact fun place value hmem => hplain place value (List.mem_cons_of_mem _ hmem)
    · exact fun value hvalue => hplain first.1 value (hvalue ▸ List.mem_cons_self)

end Reading

end EnumBindings
