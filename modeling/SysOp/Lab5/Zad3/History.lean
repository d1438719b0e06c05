import Mathlib.Data.List.Perm.Basic
import SysOp.Lab5.Zad3.Correctness

/-!
# Histories of the two queues

Facts about the abstract pair of queues alone: what a history keeps, and
which queue a removal is served from.  Together with the refinement they
speak about the shared memory.
-/

namespace SysOp.Lab5.Zad3

open SysOp.Foundation

section Queues

variable {queues final rest : Queues} {trace : List (Event Order Receipt)}
  {receipt : Receipt}

theorem take_cases (took : twoQueues.take queues = some (receipt, rest)) :
    (queues.priority = receipt.taskStr :: rest.priority ∧
      queues.normal = rest.normal ∧
      receipt.queueSource = some .priority) ∨
    (queues.priority = [] ∧ rest.priority = [] ∧
      queues.normal = receipt.taskStr :: rest.normal ∧
      receipt.queueSource = some .normal) := by
  obtain ⟨_ | ⟨task, priority⟩, normal⟩ := queues
  · cases normal with
    | nil => cases took
    | cons task normal =>
        cases took
        exact .inr ⟨rfl, rfl, rfl, rfl⟩
  · cases took
    exact .inl ⟨rfl, rfl, rfl⟩

theorem count_put (order : Order) (task : Task) :
    (twoQueues.put order queues).all.count task =
      queues.all.count task + [order.task.toTask].count task := by
  simp only [twoQueues, Queues.all]
  cases order.name <;> simp only [List.count_append] <;> omega

theorem count_take (took : twoQueues.take queues = some (receipt, rest))
    (task : Task) :
    queues.all.count task =
      rest.all.count task + [receipt.taskStr].count task := by
  rcases take_cases took with ⟨first, same, _⟩ | ⟨none, noneAfter, first, _⟩
  · rw [Queues.all, Queues.all, first, same, ← List.singleton_append]
    simp only [List.count_append]
    omega
  · rw [Queues.all, Queues.all, none, noneAfter, first,
      ← List.singleton_append]
    simp only [List.count_append]
    omega

theorem count_promote (task : Task) :
    (twoQueues.promote queues).all.count task = queues.all.count task := by
  obtain ⟨priority, _ | ⟨oldest, normal⟩⟩ := queues
  · rfl
  · simp [twoQueues, Queues.all]

/-- No task is lost or duplicated along a history. -/
theorem count_history
    (accepted : twoQueues.acceptor.accept queues trace = some final)
    (task : Task) :
    queues.all.count task +
        ((insertions trace).map fun order => order.task.toTask).count task =
      ((removals trace).map Receipt.taskStr).count task +
        final.all.count task := by
  induction trace generalizing queues with
  | nil =>
      cases accepted
      simp
  | cons event later inductionHypothesis =>
      simp only [Acceptor.accept_cons, Option.bind_eq_some_iff] at accepted
      obtain ⟨middle, first, acceptedLater⟩ := accepted
      have remaining := inductionHypothesis acceptedLater
      cases event with
      | inserted order =>
          cases first
          rw [count_put] at remaining
          simp only [insertions_cons, removals_cons, Event.order?,
            Event.receipt?, Option.toList_some, Option.toList_none,
            List.map_append, List.count_append, List.map_cons, List.map_nil,
            List.nil_append] at remaining ⊢
          omega
      | removed receipt =>
          rw [Store.next_removed_eq_some_iff] at first
          rw [count_take first task]
          simp only [insertions_cons, removals_cons, Event.order?,
            Event.receipt?, Option.toList_some, Option.toList_none,
            List.map_append, List.count_append, List.map_cons, List.map_nil,
            List.nil_append]
          omega
      | aged =>
          cases first
          rw [count_promote] at remaining
          simpa using remaining
      | managerEntered | warned | managerLeft =>
          cases first
          simpa using remaining

/-- A removal from NORMAL found PRIORITY empty. -/
theorem normal_served_last {earlier later : List (Event Order Receipt)}
    (accepted : twoQueues.acceptor.accept queues
      (earlier ++ .removed receipt :: later) = some final)
    (fromNormal : receipt.queueSource = some .normal) :
    ∃ before, twoQueues.acceptor.accept queues earlier = some before ∧
      before.priority = [] := by
  simp only [Acceptor.accept_append, Acceptor.accept_cons,
    Option.bind_eq_some_iff, Store.next_removed_eq_some_iff] at accepted
  obtain ⟨before, acceptedEarlier, rest, took, _⟩ := accepted
  refine ⟨before, acceptedEarlier, ?_⟩
  rcases take_cases took with ⟨_, _, fromPriority⟩ | ⟨none, _⟩
  · rw [fromPriority] at fromNormal
    cases fromNormal
  · exact none

end Queues

/-- The rings hold two lists that the history leads to, step by step, under
the rules of `twoQueues`. -/
structure RefinesTwoQueues (trace : List (Event Order Receipt))
    (state : State SharedMemory Order Receipt) (queues : Queues) : Prop where
  accepted : twoQueues.acceptor.accept twoQueues.empty trace = some queues
  rings : ∀ name, (state.ipc.shm.ring name).Holds (queues.list name)
  conserved : ((insertions trace).map fun order => order.task.toTask).Perm
    ((removals trace).map Receipt.taskStr ++ queues.all)
  priorityFirst : ∀ earlier receipt later,
    trace = earlier ++ .removed receipt :: later →
    receipt.queueSource = some .normal →
    ∃ before,
      twoQueues.acceptor.accept twoQueues.empty earlier = some before ∧
      before.priority = []

theorem run_refines_twoQueues {managed : Bool}
    {trace : List (Event Order Receipt)}
    {state : State SharedMemory Order Receipt}
    (run : (system (program managed)).Run (initial (program managed))
      trace state) :
    ∃ queues, RefinesTwoQueues trace state queues := by
  obtain ⟨queues, accepted, keeps⟩ := run_keeps run
  refine ⟨queues, accepted, keeps.represented.ring, ?_, ?_⟩
  · apply List.perm_iff_count.mpr
    intro task
    have counts := count_history accepted task
    rw [List.count_append]
    simpa [twoQueues, Queues.all] using counts
  · rintro earlier receipt later rfl fromNormal
    exact normal_served_last accepted fromNormal

theorem run_refines_twoQueues_example :
    ∃ queues, RefinesTwoQueues
      (((system (program true)).execute (fun _ _ => True)
        (initial (program true)) exampleSchedule).get (by decide)).2
      (((system (program true)).execute (fun _ _ => True)
        (initial (program true)) exampleSchedule).get (by decide)).1 queues :=
  run_refines_twoQueues (Machine.execute_get_runWithin _)

end SysOp.Lab5.Zad3
