import SysOp.Lab5.Signals
import SysOp.Lab5.Zad3.Correctness

/-!
# Signals in stage three

Whether `cleanup_handler` leaves the semaphores consistent depends only on
where the signal finds its process: a consumer must have no task reserved
and nothing to give back, a manager must be outside its critical section.
-/

namespace SysOp.Lab5.Zad3

open SysOp.Foundation

variable {trace : List (Event Order Receipt)}
  {state : State SharedMemory Order Receipt}

/-- As long as every signal finds its process empty-handed the semaphores
stay consistent, and the first one that does not makes them inconsistent. -/
theorem signals_consistent_iff
    (run : (interruptible (program true)).RunWithin Careful
      (initial (program true)) trace state) :
    state.Consistent K ∧ ∀ action next events,
      signalStep (program true) state action = some (next, events) →
        (next.Consistent K ↔ Careful state action) := by
  have accounted : state.Accounted K := careful_run_accounted run
  refine ⟨accounted.consistent, ?_⟩
  intro action next events taken
  exact signalStep_consistent_iff accounted taken

/-- One task is produced; a consumer is let into its critical section. -/
def removingSchedule : List (SignalAction Seed) :=
  [.step (.startProducer 1), .step .startConsumer] ++
    List.replicate 6 (.step (.producer 0 ⟨fun index => index, 50⟩)) ++
    List.replicate 2 (.step (.consumer 0))

/-- The state it leads to, with the trace. -/
def removing : State SharedMemory Order Receipt × List (Event Order Receipt) :=
  ((interruptible (program true)).execute Careful (initial (program true))
    removingSchedule).get (by decide)

theorem signals_consistent_iff_example :
    removing.1.Consistent K ∧ ∀ action next events,
      signalStep (program true) removing.1 action = some (next, events) →
        (next.Consistent K ↔ Careful removing.1 action) :=
  signals_consistent_iff (Machine.execute_get_runWithin _)

/-- A consumer killed after two statements of its critical section takes the
mutex with it. -/
theorem mutex_lost :
    ∃ (trace : List (Event Order Receipt))
      (state next : State SharedMemory Order Receipt),
      (interruptible (program true)).Run (initial (program true)) trace state ∧
        signalStep (program true) state (.consumer 0 2) = some (next, []) ∧
        next.inside = 0 ∧ next.ipc.mutex = 0 ∧ ¬ next.Consistent K := by
  have run : (interruptible (program true)).RunWithin Careful
      (initial (program true)) removing.2 removing.1 :=
    Machine.execute_get_runWithin _
  refine ⟨_, _, _, run.run, rfl, ?_, ?_, ?_⟩
  · decide
  · decide
  · intro consistent
    exact absurd (consistent.mutex (by decide)) (by decide)

end SysOp.Lab5.Zad3
