import SysOp.Foundation.Machine

/-!
# What a machine cannot avoid

A goal is inevitable when the allowed steps can neither go on for ever nor come
to an end before they reach it.
-/

namespace SysOp.Foundation.Machine

universe u v w

variable {State : Type u} {Action : Type v} {Event : Type w}

/-- Some allowed step can be taken. -/
def Able (machine : Machine State Action Event)
    (allowed : State → Action → Prop) (state : State) : Prop :=
  ∃ action, allowed state action ∧ (machine.step state action).isSome

inductive Inevitable (machine : Machine State Action Event)
    (allowed : State → Action → Prop) (goal : State → Prop) :
    State → Prop where
  | reached {state : State} (here : goal state) :
      Inevitable machine allowed goal state
  | onward {state : State} (able : machine.Able allowed state)
      (after : ∀ {action : Action} {next : State} {events : List Event},
        allowed state action → machine.step state action = some (next, events) →
        Inevitable machine allowed goal next) :
      Inevitable machine allowed goal state

variable {machine : Machine State Action Event}
  {allowed : State → Action → Prop} {goal : State → Prop} {state : State}

/-- The rule of measures: short of the goal an allowed step can be taken, and
each one lowers the measure. -/
theorem inevitable_of_measure (invariant : State → Prop)
    (measure : State → Nat)
    (able : ∀ {state}, invariant state → ¬ goal state →
      machine.Able allowed state)
    (lowered : ∀ {state action next events}, invariant state →
      allowed state action → machine.step state action = some (next, events) →
      invariant next ∧ measure next < measure state)
    (initially : invariant state) :
    machine.Inevitable allowed goal state := by
  induction left : measure state using Nat.strongRecOn generalizing state with
  | ind left inductionHypothesis =>
      subst left
      by_cases here : goal state
      · exact .reached here
      · apply Inevitable.onward (able initially here)
        intro action next events permitted taken
        obtain ⟨kept, lower⟩ := lowered initially permitted taken
        exact inductionHypothesis _ lower kept rfl

theorem Inevitable.goal_of_not_able
    (inevitable : machine.Inevitable allowed goal state)
    (stuck : ¬ machine.Able allowed state) : goal state := by
  cases inevitable with
  | reached here => exact here
  | onward able _ => exact absurd able stuck

theorem Inevitable.exists_run
    (inevitable : machine.Inevitable allowed goal state) :
    ∃ trace last, machine.RunWithin allowed state trace last ∧ goal last := by
  induction inevitable with
  | reached here => exact ⟨[], _, .refl _, here⟩
  | onward able _ inductionHypothesis =>
      obtain ⟨action, permitted, enabled⟩ := able
      obtain ⟨⟨next, events⟩, taken⟩ := Option.isSome_iff_exists.mp enabled
      obtain ⟨trace, last, steps, here⟩ := inductionHypothesis permitted taken
      have single := RunWithin.tail (.refl _) permitted taken
      exact ⟨_, last, single.append steps, here⟩

end SysOp.Foundation.Machine
