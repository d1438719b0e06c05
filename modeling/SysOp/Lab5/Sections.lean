import SysOp.Lab5.Refinement

/-!
# Completed manager sections

Every manager section runs the aging step once between its entry and its
exit.  So along a run the exits, and the sections that are past their aging
step at the end, are matched by the aging steps, and the sections that were
past it at the start.
-/

namespace SysOp.Lab5

open SysOp.Foundation

variable {Memory Seed Order Receipt : Type}

def isAged : Event Order Receipt → Bool
  | .aged => true
  | _ => false

def isManagerLeft : Event Order Receipt → Bool
  | .managerLeft => true
  | _ => false

def State.pastAging (state : State Memory Order Receipt) : Nat :=
  census Manager.pastAging state.managers

/-- The manager sections completed in a continuation of `state`, not counting
one that already had its aging step behind it. -/
def completedSections (state : State Memory Order Receipt)
    (future : List (Event Order Receipt)) : Nat :=
  future.countP isManagerLeft - state.pastAging

theorem managerStep_sections {manager : ManagerProgram Memory}
    {ipc next : Ipc Memory} {before after : Manager}
    {events : List (Event Order Receipt)}
    (moved : managerStep manager ipc before = some (next, after, events)) :
    after.pastAging + events.countP isManagerLeft =
      before.pastAging + events.countP isAged := by
  cases before with
  | waitMutex =>
      simp only [managerStep, Option.map_eq_some_iff, Prod.mk.injEq] at moved
      obtain ⟨mutex, _, rfl, rfl, rfl⟩ := moved
      rfl
  | aging | readEmpty | readFull | postMutex =>
      cases moved
      rfl
  | checking emptyVal fullVal =>
      cases moved
      split <;> rfl
  | ended => cases moved

theorem Move.sections {program : Program Memory Seed Order Receipt}
    {state next : State Memory Order Receipt}
    {events : List (Event Order Receipt)}
    (move : Move program state next events) :
    next.pastAging + events.countP isManagerLeft =
      state.pastAging + events.countP isAged := by
  cases move with
  | startProducer | startConsumer => rfl
  | startManager => simp [State.pastAging, Manager.pastAging]
  | producer found moved =>
      rcases producerStep_effect moved with
        ⟨left, order, rfl, rfl, rfl, rfl⟩ | ⟨rfl, _⟩ <;> rfl
  | consumer found moved =>
      rcases consumerStep_effect moved with
        ⟨rfl, receipt, rfl, rfl, shm, rfl, _⟩ | ⟨rfl, _⟩ <;> rfl
  | manager managed found moved =>
      have balance := managerStep_sections moved
      have counted := census_set Manager.pastAging found
      simp only [State.pastAging]
      grind

theorem run_sections {program : Program Memory Seed Order Receipt}
    {state later : State Memory Order Receipt}
    {future : List (Event Order Receipt)}
    (run : (system program).Run state future later) :
    later.pastAging + future.countP isManagerLeft =
      state.pastAging + future.countP isAged := by
  refine run.history (fun past reached =>
    reached.pastAging + past.countP isManagerLeft =
      state.pastAging + past.countP isAged) rfl ?_
  intro past reached action next events held _ taken
  have step := (step_move taken).sections
  simp only [List.countP_append]
  omega

/-- Each completed section aged within the continuation. -/
theorem completedSections_le_agings
    {program : Program Memory Seed Order Receipt}
    {state later : State Memory Order Receipt}
    {future : List (Event Order Receipt)}
    (run : (system program).Run state future later) :
    completedSections state future ≤ future.countP isAged := by
  have balance := run_sections run
  simp only [completedSections]
  omega

section Guarded

variable {program : Program Memory Seed Order Receipt}
  {state next : State Memory Order Receipt} {action : Action Seed}
  {events : List (Event Order Receipt)} {index : Nat} {inner : Manager}

/-- A step that is not the manager's own can only start it. -/
theorem managers_other (other : action ≠ .manager index)
    (taken : step program state action = some (next, events))
    (found : next.managers[index]? = some inner) :
    state.managers[index]? = some inner ∨ inner = .waitMutex := by
  cases action with
  | startProducer | startConsumer =>
      cases taken
      exact .inl found
  | startManager =>
      simp only [step, Option.map_eq_some_iff, Prod.mk.injEq] at taken
      obtain ⟨_, _, rfl, rfl⟩ := taken
      rcases getElem?_append_cases found with before | ⟨_, new⟩
      · exact .inl before
      · exact .inr new
  | producer =>
      obtain ⟨_, _, _, _, _, rfl⟩ := producer_step taken
      exact .inl found
  | consumer =>
      obtain ⟨_, _, _, _, _, rfl⟩ := consumer_step taken
      exact .inl found
  | manager mover =>
      obtain ⟨_, _, _, _, _, _, _, rfl⟩ := manager_step taken
      rcases getElem?_set_cases found with ⟨rfl, _⟩ | ⟨_, before⟩
      · exact absurd rfl other
      · exact .inl before

/-- While a manager is inside, nobody else moves it or writes the memory. -/
theorem guarded_step (exclusive : state.inside ≤ 1)
    (found : state.managers[index]? = some inner) (entered : inner.inside = 1)
    (other : action ≠ .manager index)
    (taken : step program state action = some (next, events)) :
    next.ipc.shm = state.ipc.shm ∧ next.managers[index]? = some inner := by
  have here := le_census Manager.inside found
  simp only [State.inside] at exclusive
  cases action with
  | startProducer | startConsumer =>
      cases taken
      exact ⟨rfl, found⟩
  | startManager =>
      simp only [step, Option.map_eq_some_iff, Prod.mk.injEq] at taken
      obtain ⟨_, _, rfl, rfl⟩ := taken
      obtain ⟨inside, _⟩ := List.getElem?_eq_some_iff.mp found
      exact ⟨rfl, (List.getElem?_append_left inside).trans found⟩
  | producer mover =>
      obtain ⟨before, _, _, there, moved, rfl⟩ := producer_step taken
      rcases producerStep_effect moved with
        ⟨left, order, rfl, _⟩ | ⟨_, same, _⟩
      · have second := le_census Producer.inside there
        simp only [Producer.inside] at second
        omega
      · exact ⟨same, found⟩
  | consumer mover =>
      obtain ⟨before, _, _, there, moved, rfl⟩ := consumer_step taken
      rcases consumerStep_effect moved with ⟨rfl, _⟩ | ⟨_, same, _⟩
      · have second := le_census Consumer.inside there
        simp only [Consumer.inside] at second
        omega
      · exact ⟨same, found⟩
  | manager mover =>
      obtain ⟨_, before, _, _, _, there, moved, rfl⟩ := manager_step taken
      have different : index ≠ mover := by
        rintro rfl
        exact other rfl
      refine ⟨?_, (List.getElem?_set_ne different.symm).trans found⟩
      rcases managerStep_effect moved with ⟨rfl, _⟩ | ⟨same, _⟩
      · have both := add_le_census Manager.inside found there different
        simp only [Manager.inside] at both entered
        omega
      · exact same

end Guarded

end SysOp.Lab5
