/-!
# Computations that report

A computation that may fail and reports what it does on the way. What was reported
before a failure is kept. The outcome alone behaves as an ordinary computation that
may fail.
-/

namespace EnumBindings

/-- How much a notice matters. -/
inductive Level where
  | debug
  | info
  | warning
  | error
  deriving DecidableEq, Repr

/-- The name of a level. -/
def Level.name : Level → String
  | .debug => "DEBUG"
  | .info => "INFO"
  | .warning => "WARNING"
  | .error => "ERROR"

/-- Something reported to the user. -/
structure Notice where
  level : Level
  text : String
  deriving DecidableEq, Repr

/-- The line of a log that holds a notice. -/
def Notice.line (notice : Notice) : String :=
  notice.level.name ++ ": " ++ notice.text

/-- An outcome and what was reported until it was reached. -/
structure Reported (ε α : Type) where
  notices : List Notice
  outcome : Except ε α

namespace Reported

variable {ε δ α β : Type}

/-- A result without notices. -/
protected def pure (a : α) : Reported ε α :=
  ⟨[], .ok a⟩

/-- Goes on with the result; a failure ends the computation. -/
protected def bind (x : Reported ε α) (f : α → Reported ε β) : Reported ε β :=
  match x.outcome with
  | .error e => ⟨x.notices, .error e⟩
  | .ok a => ⟨x.notices ++ (f a).notices, (f a).outcome⟩

instance : Monad (Reported ε) where
  pure := Reported.pure
  bind := Reported.bind

/-- An outcome without notices. -/
def ofExcept (outcome : Except ε α) : Reported ε α :=
  ⟨[], outcome⟩

/-- Reports and goes on. -/
def report (level : Level) (text : String) : Reported ε Unit :=
  ⟨[⟨level, text⟩], .ok ()⟩

/-- Several notices in order. -/
def reportAll (notices : List Notice) : Reported ε Unit :=
  ⟨notices, .ok ()⟩

/-- Puts a failure in other terms. -/
def mapError (f : ε → δ) (x : Reported ε α) : Reported δ α :=
  ⟨x.notices, x.outcome.mapError f⟩

@[simp] theorem outcome_pure (a : α) : (pure a : Reported ε α).outcome = .ok a :=
  rfl

@[simp] theorem outcome_ofExcept (x : Except ε α) : (ofExcept x).outcome = x :=
  rfl

@[simp] theorem outcome_report (level : Level) (text : String) :
    (report level text : Reported ε Unit).outcome = .ok () :=
  rfl

@[simp] theorem outcome_reportAll (notices : List Notice) :
    (reportAll notices : Reported ε Unit).outcome = .ok () :=
  rfl

@[simp] theorem outcome_mapError (f : ε → δ) (x : Reported ε α) :
    (x.mapError f).outcome = x.outcome.mapError f :=
  rfl

/-- A failure in other terms is no success. -/
theorem outcome_mapError_eq_ok_iff {f : ε → δ} {x : Reported ε α} {a : α} :
    (x.mapError f).outcome = .ok a ↔ x.outcome = .ok a := by
  rw [outcome_mapError]
  cases x.outcome with
  | error cause => constructor <;> intro hok <;> cases hok
  | ok found => constructor <;> intro hok <;> cases hok <;> rfl

/-- A failure in other terms comes from a failure. -/
theorem outcome_mapError_eq_error_iff {f : ε → δ} {x : Reported ε α} {error : δ} :
    (x.mapError f).outcome = .error error ↔
      ∃ cause, x.outcome = .error cause ∧ f cause = error := by
  rw [outcome_mapError]
  cases x.outcome with
  | error cause =>
    constructor
    · intro herror
      exact ⟨cause, rfl, Except.error.inj herror⟩
    · rintro ⟨_, ⟨⟩, rfl⟩
      rfl
  | ok found =>
    constructor
    · intro herror
      cases herror
    · rintro ⟨_, ⟨⟩, _⟩

/-- The outcome of a sequence is the sequence of the outcomes. -/
@[simp] theorem outcome_bind (x : Reported ε α) (f : α → Reported ε β) :
    (x >>= f).outcome = x.outcome >>= fun a => (f a).outcome := by
  show (Reported.bind x f).outcome = _
  unfold Reported.bind
  cases x.outcome <;> rfl

/-- A sequence succeeds exactly when its parts succeed in turn. -/
theorem outcome_bind_eq_ok_iff {x : Reported ε α} {f : α → Reported ε β} {b : β} :
    (x >>= f).outcome = .ok b ↔ ∃ a, x.outcome = .ok a ∧ (f a).outcome = .ok b := by
  rw [outcome_bind]
  cases x.outcome <;> simp [bind, Except.bind]

/-- A sequence fails exactly when its first part does, or its second part on what the first
gives. -/
theorem outcome_bind_eq_error_iff {x : Reported ε α} {f : α → Reported ε β} {error : ε} :
    (x >>= f).outcome = .error error ↔
      x.outcome = .error error ∨ ∃ a, x.outcome = .ok a ∧ (f a).outcome = .error error := by
  rw [outcome_bind]
  cases x.outcome <;> simp [bind, Except.bind]

instance : LawfulMonad (Reported ε) := by
  refine LawfulMonad.mk' (Reported ε) ?_ ?_ ?_
  · rintro α ⟨notices, _ | a⟩
    · rfl
    · show Reported.mk (notices ++ []) (.ok a) = _
      rw [List.append_nil]
  · intro α β a f
    show Reported.mk ([] ++ (f a).notices) (f a).outcome = f a
    rw [List.nil_append]
  · rintro α β γ ⟨notices, _ | a⟩ f g
    · rfl
    · show Reported.bind (Reported.bind _ f) g = Reported.bind _ fun a => Reported.bind (f a) g
      cases hf : (f a).outcome <;> simp [Reported.bind, hf]

end Reported

end EnumBindings
