import SysOp.Lab5.Cleaning
import SysOp.Lab5.Zad1

/-!
# Who is inside a critical section

A mutex lets in one process at a time whatever the cleaner does.  That the
processes of one shared memory have one mutex as well takes a cleaner that
runs between the setups.
-/

namespace SysOp.Lab5.Startup

open SysOp.Foundation

section Exclusion

variable {Memory Seed Order Receipt : Type}
  {program : Program Memory Seed Order Receipt}

/-- Processes inside a critical section, of those with such objects. -/
def State.insideWith (selected : Handles → Prop) [DecidablePred selected]
    (state : State program) : Nat :=
  census (fun process => if selected process.1 then process.2.inside else 0)
      state.producers +
    census (fun process => if selected process.1 then process.2.inside else 0)
      state.consumers +
    census (fun process => if selected process.1 then process.2.inside else 0)
      state.managers

/-- The value of a mutex and who is inside by it. -/
def State.Balanced (mutex : Nat) (state : State program) : Prop :=
  state.kernel.mutex.read 1 mutex +
    state.insideWith (·.mutex = mutex) = 1

section Steps

variable {state next : State program} {action : Action program}
  {events : List (Handles × Event Order Receipt)} {mutex : Nat}

theorem insideWith_join (handles : Handles) (role : Role program)
    (selected : Handles → Prop) [DecidablePred selected] :
    (state.join handles role).insideWith selected =
      state.insideWith selected := by
  cases role <;>
    simp [State.join, State.insideWith, Producer.inside, Consumer.inside,
      Manager.inside]

/-- What a process takes from its mutex it carries, and no other mutex
changes. -/
theorem census_write {Process : Type} (weight : Process → Nat)
    {processes : List (Handles × Process)} {index : Nat} {handles : Handles}
    {before : Process} (found : processes[index]? = some (handles, before))
    {kernel : Kernel Memory} (made : Made kernel handles) (mutex : Nat)
    {result : Ipc Memory} {after : Process}
    (conserved : result.mutex + weight after =
      kernel.mutex.read 1 handles.mutex + weight before) :
    (write kernel handles result).mutex.read 1 mutex +
        census (fun process =>
            if process.1.mutex = mutex then weight process.2 else 0)
          (processes.set index (handles, after)) =
      kernel.mutex.read 1 mutex +
        census (fun process =>
            if process.1.mutex = mutex then weight process.2 else 0)
          processes := by
  have counted := census_set (fun process =>
    if process.1.mutex = mutex then weight process.2 else 0) found
    (handles, after)
  by_cases own : handles.mutex = mutex
  · have written : (write kernel handles result).mutex.read 1 mutex =
        result.mutex := by
      rw [← own]
      exact Named.read_write_self _ _ made.2.1
    rw [own] at conserved
    simp only [own, if_true] at counted
    omega
  · have written : (write kernel handles result).mutex.read 1 mutex =
        kernel.mutex.read 1 mutex :=
      Named.read_write_of_ne _ _ (Ne.symm own)
    simp only [own, if_false] at counted
    omega

theorem Move.balanced (move : Move state action next events)
    (valid : Valid state) (balanced : state.Balanced mutex) :
    next.Balanced mutex := by
  have unchanged {kernel : Kernel Memory}
      (same : ipc program kernel ⟨0, mutex, 0, 0⟩ =
        ipc program state.kernel ⟨0, mutex, 0, 0⟩) :
      kernel.mutex.read 1 mutex = state.kernel.mutex.read 1 mutex :=
    congrArg Ipc.mutex same
  have total := balanced
  simp only [State.Balanced, State.insideWith] at total
  cases move with
  | spawn | leave => exact balanced
  | @setUp _ _ before _ _ _ called =>
      have same := unchanged (ipc_setupStep program state.kernel _ before)
      rw [called] at same
      exact (congrArg (· + _) same).trans total
  | @join _ _ before _ _ _ called =>
      have same := unchanged (ipc_setupStep program state.kernel _ before)
      rw [called] at same
      rw [State.Balanced, insideWith_join, kernel_join]
      exact (congrArg (· + _) same).trans total
  | producer found moved =>
      have made := valid.running _ (mem_handles.mpr
        (.inl (List.mem_map_of_mem (List.mem_of_getElem? found))))
      have counted := census_write Producer.inside found made
        mutex (producerStep_conserves moved).1
      simp only [State.Balanced, State.insideWith]
      omega
  | consumer found moved =>
      have made := valid.running _ (mem_handles.mpr
        (.inr (.inl (List.mem_map_of_mem (List.mem_of_getElem? found)))))
      have counted := census_write Consumer.inside found made
        mutex (consumerStep_conserves moved).1
      simp only [State.Balanced, State.insideWith]
      omega
  | manager _ found moved =>
      have made := valid.running _ (mem_handles.mpr
        (.inr (.inr (List.mem_map_of_mem (List.mem_of_getElem? found)))))
      have counted := census_write Manager.inside found made
        mutex (managerStep_conserves moved).1
      simp only [State.Balanced, State.insideWith]
      omega
  | clean =>
      have same := unchanged (ipc_cleanerStep state.cleaner)
      exact (congrArg (· + _) same).trans total

end Steps

section Runs

variable {state : State program}
  {trace : List (Handles × Event Order Receipt)}

/-- However the cleaner runs, a mutex lets in one process at a time. -/
theorem mutex_balanced (run : (startup program).Run initial trace state)
    (mutex : Nat) : state.Balanced mutex := by
  have invariant := run.invariant (fun reached => Valid reached ∧
    reached.Balanced mutex) ⟨initial_valid, rfl⟩ ?_
  · exact invariant.2
  · rintro before action after events ⟨valid, balanced⟩ _ taken
    have move := step_move taken
    exact ⟨move.valid valid, move.balanced valid balanced⟩

theorem insideWith_eq {group : Handles}
    {abstract : Lab5.State Memory Order Receipt} {shm : Nat}
    (represents : Represents group state abstract)
    (same : ∀ handles ∈ state.handles, handles.shm = shm ↔ handles = group) :
    state.insideWith (·.shm = shm) = abstract.inside := by
  have member {Process : Type} {processes : List (Handles × Process)}
      (weight : Process → Nat)
      (listed : ∀ process ∈ processes, process.1 ∈ state.handles) :
      census (fun process => if process.1.shm = shm then weight process.2
          else 0) processes =
        census weight (project group processes) := by
    rw [← census_project]
    refine census_congr fun process there => ?_
    simp only [same process.1 (listed process there)]
  obtain ⟨_, producers, consumers, managers⟩ := represents
  rw [State.insideWith, State.inside, producers, consumers, managers,
    member _ fun process there =>
      mem_handles.mpr (.inl (List.mem_map_of_mem there)),
    member _ fun process there =>
      mem_handles.mpr (.inr (.inl (List.mem_map_of_mem there))),
    member _ fun process there =>
      mem_handles.mpr (.inr (.inr (List.mem_map_of_mem there)))]

/-- No two processes are inside a critical section of one shared memory. -/
theorem tidy_exclusive
    (run : (startup program).RunWithin Tidy initial trace state) (shm : Nat) :
    state.insideWith (·.shm = shm) ≤ 1 := by
  by_cases present : ∃ handles ∈ state.handles, handles.shm = shm
  · obtain ⟨group, member, rfl⟩ := present
    obtain ⟨abstract, steps, represents⟩ :=
      run_refines run.run ((run_orderly run).grouped group member)
    have accounted := steps.invariant (State.Accounted program.capacity)
      (initial_accounted program)
      fun accounted _ taken => (Lab5.step_move taken).accounted accounted
    have inside := insideWith_eq represents fun handles there => by
      constructor
      · intro same
        rcases (run_orderly run).grouped group member handles there with
          own | apart
        · exact own
        · exact absurd same apart.1
      · rintro rfl
        rfl
    have sum := accounted.mutex
    omega
  · have nobody {Process : Type} {processes : List (Handles × Process)}
        (weight : Process → Nat)
        (listed : ∀ process ∈ processes, process.1 ∈ state.handles) :
        census (fun process => if process.1.shm = shm then weight process.2
          else 0) processes = 0 := by
      refine census_eq_zero_iff.mpr fun process there => if_neg fun same => ?_
      exact present ⟨process.1, listed process there, same⟩
    rw [State.insideWith,
      nobody _ fun process there =>
        mem_handles.mpr (.inl (List.mem_map_of_mem there)),
      nobody _ fun process there =>
        mem_handles.mpr (.inr (.inl (List.mem_map_of_mem there))),
      nobody _ fun process there =>
        mem_handles.mpr (.inr (.inr (List.mem_map_of_mem there)))]
    exact Nat.zero_le 1

end Runs

end Exclusion

/-- A producer and a consumer, the cleaner, and a producer after it. -/
def cleanedSchedule : List (Action Zad1.program) :=
  [.spawn (.producer 10), .spawn .consumer] ++
    List.replicate 12 (.setup 0) ++ List.replicate 4 .clean ++
    [.spawn (.producer 10)] ++ List.replicate 6 (.setup 0) ++
    List.replicate 4 (.producer 0 id) ++ List.replicate 4 (.producer 1 id)

theorem tidy_run_refines_cleaned :
    ∃ abstract,
      (system Zad1.program).Run (Lab5.initial Zad1.program)
        (project ⟨1, 1, 1, 1⟩ (((startup Zad1.program).execute Tidy initial
          cleanedSchedule).get (by decide)).2) abstract ∧
      Represents ⟨1, 1, 1, 1⟩ (((startup Zad1.program).execute Tidy initial
          cleanedSchedule).get (by decide)).1 abstract := by
  have run : (startup Zad1.program).RunWithin Tidy initial
      (((startup Zad1.program).execute Tidy initial
          cleanedSchedule).get (by decide)).2
      (((startup Zad1.program).execute Tidy initial
          cleanedSchedule).get (by decide)).1 :=
    Machine.execute_get_runWithin _
  exact tidy_run_refines run (by decide)

theorem tidy_exclusive_cleaned :
    (((startup Zad1.program).execute Tidy initial cleanedSchedule).get
      (by decide)).1.insideWith (·.shm = 1) ≤ 1 := by
  have run : (startup Zad1.program).RunWithin Tidy initial
      (((startup Zad1.program).execute Tidy initial
          cleanedSchedule).get (by decide)).2
      (((startup Zad1.program).execute Tidy initial
          cleanedSchedule).get (by decide)).1 :=
    Machine.execute_get_runWithin _
  exact tidy_exclusive run 1

/-- The cleaner comes between the shared memory and the mutex of the second
producer. -/
def overtakenSchedule : List (Action Zad1.program) :=
  [.spawn (.producer 10), .spawn (.producer 10), .setup 1] ++
    List.replicate 6 (.setup 0) ++ List.replicate 4 .clean ++
    List.replicate 5 (.setup 0) ++
    List.replicate 3 (.producer 0 id) ++ List.replicate 3 (.producer 1 id)

theorem mutex_balanced_overtaken :
    (((startup Zad1.program).execute (fun _ _ => True) initial
      overtakenSchedule).get (by decide)).1.Balanced 0 := by
  have run : (startup Zad1.program).Run initial
      (((startup Zad1.program).execute (fun _ _ => True) initial
          overtakenSchedule).get (by decide)).2
      (((startup Zad1.program).execute (fun _ _ => True) initial
          overtakenSchedule).get (by decide)).1 :=
    Machine.execute_get_runWithin _
  exact mutex_balanced run 0

example : (((startup Zad1.program).execute (fun _ _ => True) initial
    overtakenSchedule).get (by decide)).1.insideWith (·.shm = 0) = 2 := by
  decide

end SysOp.Lab5.Startup
