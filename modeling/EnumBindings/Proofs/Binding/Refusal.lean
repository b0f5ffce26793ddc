import EnumBindings.Proofs.Binding.Functions

/-!
# What conversions refuse

A conversion that refuses some input needs the helper for global objects. The conversions between
members and JSON refuse input exactly where no sentinel is asked for, and the conversion to numbers
never does.
-/

namespace EnumBindings

open Script

/-- Arms of which only the last one throws, which is the default and has no other label. -/
def Script.ThrowsByDefault (arms : List Branch) : Prop :=
  ∃ others, arms = others ++ [⟨[], true, .throws⟩] ∧
    ∀ arm ∈ others, arm.isDefault = false ∧ arm.outcome ≠ .throws

namespace Binding

variable {binding : Binding}

/-- The arms for members give something, so whether anything is refused is up to the last arm. -/
theorem any_refuses_arms {arm : Member → Arm} {rest : Arm}
    (harm : ∀ member, (arm member).statement.refuses = false) :
    (binding.members.map arm ++ [rest]).any (·.statement.refuses) = rest.statement.refuses := by
  have hmembers : (binding.members.map arm).any (·.statement.refuses) = false := by
    rw [List.any_eq_false]
    intro other hother
    obtain ⟨member, _, rfl⟩ := List.mem_map.mp hother
    rw [harm]
    exact Bool.false_ne_true
  rw [List.any_append, hmembers, Bool.false_or, List.any_cons, List.any_nil, Bool.or_false]

/-- The conversion from JSON refuses what is unknown if there is no sentinel. -/
theorem refuses_fromJson (binding : Binding) (sentinel : Sentinel) :
    (binding.fromJson sentinel).refuses = !binding.options.sentinel := by
  have hrest : (binding.fromJson sentinel).refuses =
      (binding.fromJsonRest sentinel).statement.refuses := any_refuses_arms fun _ => rfl
  rw [hrest]
  cases hon : binding.options.sentinel with
  | false => rw [fromJsonRest_eq_refusal hon]; rfl
  | true =>
    simp only [fromJsonRest, hon, if_true]
    cases sentinel <;> rfl

/-- The conversion to JSON refuses what is unknown if there is no sentinel. -/
theorem refuses_toJson (binding : Binding) (sentinel : Sentinel) :
    (binding.toJson sentinel).refuses = !binding.options.sentinel := by
  have hrest : (binding.toJson sentinel).refuses =
      (binding.toJsonRest sentinel).statement.refuses := any_refuses_arms fun _ => rfl
  rw [hrest]
  cases hon : binding.options.sentinel with
  | false => rw [toJsonRest_eq_refusal hon]; rfl
  | true =>
    simp only [toJsonRest, hon, if_true]
    cases sentinel <;> rfl

/-- The conversion to numbers refuses nothing. -/
theorem refuses_toNumber (binding : Binding) (sentinel : Sentinel) :
    (binding.toNumber sentinel).refuses = false :=
  any_refuses_arms fun _ => rfl

/-- Something is refused exactly if no sentinel is asked for and some conversion between members and
JSON is. -/
theorem any_refuses_conversions (binding : Binding) :
    binding.conversions.any (·.refuses) =
      (!binding.options.sentinel &&
        (binding.options.emitsFromJson || binding.options.emitsToJson)) := by
  have hoptional (wanted : Bool) (conversion : Conversion) :
      (if wanted then [conversion] else []).any (·.refuses) = (wanted && conversion.refuses) := by
    cases wanted <;> simp
  unfold conversions
  rw [List.any_append, List.any_append, hoptional, hoptional, hoptional, refuses_fromJson,
    refuses_toJson, refuses_toNumber, Bool.and_false, Bool.or_false, ← Bool.and_or_distrib_right,
    Bool.and_comm]

/-- The fragments need the helper exactly if something is refused. -/
theorem any_needsGlobalObject_fragments (binding : Binding) :
    binding.fragments.any (·.needsGlobalObject) =
      (!binding.options.sentinel &&
        (binding.options.emitsFromJson || binding.options.emitsToJson)) := by
  rw [fragments, List.any_cons, List.any_map, ← any_refuses_conversions]
  exact Bool.false_or _

/-- With arms for the members that give something, and a refusal behind them, only the default
throws. -/
theorem throwsByDefault_arms {arm : Member → Arm}
    (harm : ∀ member, (arm member).branch.isDefault = false ∧
      (arm member).branch.outcome ≠ .throws) :
    ThrowsByDefault ((binding.members.map arm ++ [binding.refusal]).map Arm.branch) := by
  refine ⟨(binding.members.map arm).map Arm.branch, ?_, ?_⟩
  · rw [List.map_append]
    rfl
  · rw [List.map_map, List.forall_mem_map]
    exact fun member _ => harm member

/-- Without a sentinel the conversion from JSON throws by default. -/
theorem throwsByDefault_fromJson (hoff : binding.options.sentinel = false) (sentinel : Sentinel) :
    ThrowsByDefault ((binding.fromJson sentinel).arms.map Arm.branch) := by
  rw [fromJson, fromJsonRest_eq_refusal hoff]
  exact throwsByDefault_arms fun member => ⟨rfl, Outcome.noConfusion⟩

/-- Without a sentinel the conversion to JSON throws by default. -/
theorem throwsByDefault_toJson (hoff : binding.options.sentinel = false) (sentinel : Sentinel) :
    ThrowsByDefault ((binding.toJson sentinel).arms.map Arm.branch) := by
  rw [toJson, toJsonRest_eq_refusal hoff]
  exact throwsByDefault_arms fun member => ⟨rfl, Outcome.noConfusion⟩

end Binding

end EnumBindings
