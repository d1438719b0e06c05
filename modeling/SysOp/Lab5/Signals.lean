import SysOp.Lab5.Accounting

/-!
# Termination by a signal

`cleanup_handler` closes the semaphores and the mapping of its own process
and exits; it posts nothing.  A signal can find a consumer or a manager at
any point of its loop, inside a critical section after any number of the
statements of its body.
-/

namespace SysOp.Lab5

open SysOp.Foundation

variable {Memory Seed Order Receipt : Type}

/-- SIGINT or SIGTERM for a consumer or a manager; `executed` statements of
the critical section it may be in are already done. -/
inductive SignalAction (Seed : Type) where
  | step (action : Action Seed)
  | consumer (index executed : Nat)
  | manager (index executed : Nat)

/-- The memory an interrupted consumer leaves behind. -/
def interruptConsumer (program : Program Memory Seed Order Receipt)
    (executed : Nat) (shm : Memory) : Consumer Receipt → Option Memory
  | .ended => none
  | .removing =>
      some (execBody ((program.remove shm).take executed)
        (shm, program.locals)).1
  | _ => some shm

def interruptManager (program : ManagerProgram Memory) (executed : Nat)
    (shm : Memory) : Manager → Option Memory
  | .ended => none
  | .aging =>
      some (execBody ((program.age shm).take executed) (shm, Task.zeroed)).1
  | _ => some shm

def signalStep (program : Program Memory Seed Order Receipt)
    (state : State Memory Order Receipt) :
    SignalAction Seed →
      Option (State Memory Order Receipt × List (Event Order Receipt))
  | .step action => step program state action
  | .consumer index executed =>
      state.consumers[index]?.bind fun consumer =>
        (interruptConsumer program executed state.ipc.shm consumer).map
          fun shm =>
            ({ state with
                ipc := { state.ipc with shm }
                consumers := state.consumers.set index .ended }, [])
  | .manager index executed =>
      program.manager.bind fun managerProgram =>
        state.managers[index]?.bind fun manager =>
          (interruptManager managerProgram executed state.ipc.shm manager).map
            fun shm =>
              ({ state with
                  ipc := { state.ipc with shm }
                  managers := state.managers.set index .ended }, [])

def interruptible (program : Program Memory Seed Order Receipt) :
    Machine (State Memory Order Receipt) (SignalAction Seed)
      (Event Order Receipt) where
  start := initial program
  step := signalStep program

/-- Consistency for the processes that are left: an ended process is inside
nothing and holds nothing. -/
structure State.Consistent (capacity : Nat)
    (state : State Memory Order Receipt) : Prop where
  mutex : state.inside = 0 → state.ipc.mutex = 1
  tokens : state.ipc.empty + state.ipc.full + state.slotsHeld +
    state.tasksHeld = capacity

/-- Before `sem_wait(full)` or past `sem_post(empty)`. -/
def Consumer.emptyHanded : Consumer Receipt → Prop
  | .waitFull | .processing _ | .ended => True
  | _ => False

/-- Outside the critical section. -/
def Manager.emptyHanded : Manager → Prop
  | .waitMutex | .ended => True
  | _ => False

/-- No signal finds its process with a token or the mutex. -/
def Careful (state : State Memory Order Receipt) : SignalAction Seed → Prop
  | .step _ => True
  | .consumer index _ =>
      ∀ consumer ∈ state.consumers[index]?, consumer.emptyHanded
  | .manager index _ =>
      ∀ manager ∈ state.managers[index]?, manager.emptyHanded

instance (consumer : Consumer Receipt) : Decidable consumer.emptyHanded := by
  cases consumer <;> simp only [Consumer.emptyHanded] <;> infer_instance

instance (manager : Manager) : Decidable manager.emptyHanded := by
  cases manager <;> simp only [Manager.emptyHanded] <;> infer_instance

instance (state : State Memory Order Receipt) (action : SignalAction Seed) :
    Decidable (Careful state action) :=
  match action with
  | .step _ => inferInstanceAs (Decidable True)
  | .consumer index _ => inferInstanceAs
      (Decidable (∀ consumer ∈ state.consumers[index]?, consumer.emptyHanded))
  | .manager index _ => inferInstanceAs
      (Decidable (∀ manager ∈ state.managers[index]?, manager.emptyHanded))

@[simp]
theorem Consumer.inside_ended : (ended : Consumer Receipt).inside = 0 := rfl

@[simp]
theorem Consumer.holdsTask_ended : (ended : Consumer Receipt).holdsTask = 0 :=
  rfl

@[simp]
theorem Manager.inside_ended : ended.inside = 0 := rfl

theorem Consumer.emptyHanded_iff (consumer : Consumer Receipt) :
    consumer.emptyHanded ↔ consumer.inside = 0 ∧ consumer.holdsTask = 0 := by
  cases consumer <;> simp [emptyHanded, inside, holdsTask]

theorem Manager.emptyHanded_iff (manager : Manager) :
    manager.emptyHanded ↔ manager.inside = 0 := by
  cases manager <;> simp [emptyHanded, inside]

section Interrupted

variable {capacity : Nat} {state : State Memory Order Receipt}

/-- An interrupted consumer takes its tokens with it. -/
theorem consumer_interrupted_iff (accounted : state.Accounted capacity)
    {index : Nat} {consumer : Consumer Receipt}
    (found : state.consumers[index]? = some consumer) (shm : Memory) :
    ({ state with
        ipc := { state.ipc with shm }
        consumers := state.consumers.set index .ended } :
      State Memory Order Receipt).Consistent capacity ↔
      consumer.emptyHanded := by
  obtain ⟨mutex, tokens⟩ := accounted
  have insideAfter := census_set Consumer.inside found .ended
  have heldAfter := census_set Consumer.holdsTask found .ended
  simp only [Consumer.inside_ended, Consumer.holdsTask_ended]
    at insideAfter heldAfter
  simp only [State.inside] at mutex
  simp only [State.slotsHeld, State.tasksHeld] at tokens
  rw [Consumer.emptyHanded_iff]
  constructor
  · rintro ⟨mutexLeft, tokensLeft⟩
    simp only [State.inside] at mutexLeft
    simp only [State.slotsHeld, State.tasksHeld] at tokensLeft
    refine ⟨?_, by omega⟩
    by_contra inside
    have free := mutexLeft (by omega)
    omega
  · rintro ⟨outside, empty⟩
    constructor <;>
      simp only [State.inside, State.slotsHeld, State.tasksHeld] <;> omega

theorem manager_interrupted_iff (accounted : state.Accounted capacity)
    {index : Nat} {manager : Manager}
    (found : state.managers[index]? = some manager) (shm : Memory) :
    ({ state with
        ipc := { state.ipc with shm }
        managers := state.managers.set index .ended } :
      State Memory Order Receipt).Consistent capacity ↔
      manager.emptyHanded := by
  obtain ⟨mutex, tokens⟩ := accounted
  have insideAfter := census_set Manager.inside found .ended
  simp only [Manager.inside_ended] at insideAfter
  simp only [State.inside] at mutex
  simp only [State.slotsHeld, State.tasksHeld] at tokens
  rw [Manager.emptyHanded_iff]
  constructor
  · rintro ⟨mutexLeft, _⟩
    simp only [State.inside] at mutexLeft
    by_contra inside
    have free := mutexLeft (by omega)
    omega
  · intro outside
    constructor <;>
      simp only [State.inside, State.slotsHeld, State.tasksHeld] <;> omega

theorem State.Accounted.consistent (accounted : state.Accounted capacity) :
    state.Consistent capacity where
  mutex outside := by
    have sum := accounted.mutex
    omega
  tokens := accounted.tokens

/-- Consistent again means fully accounted for, since signals change no
semaphore. -/
theorem State.Consistent.accounted {before : State Memory Order Receipt}
    (consistent : state.Consistent capacity)
    (accounted : before.Accounted capacity)
    (sameMutex : state.ipc.mutex = before.ipc.mutex)
    (noMore : state.inside ≤ before.inside) : state.Accounted capacity where
  mutex := by
    have sum := accounted.mutex
    have free := consistent.mutex
    omega
  tokens := consistent.tokens

end Interrupted

section Runs

variable {program : Program Memory Seed Order Receipt} {capacity : Nat}
  {state next : State Memory Order Receipt}
  {events : List (Event Order Receipt)}

/-- After one step the state is consistent if and only if the step was not
a signal for a process that holds something. -/
theorem signalStep_consistent_iff {action : SignalAction Seed}
    (accounted : state.Accounted capacity)
    (taken : signalStep program state action = some (next, events)) :
    next.Consistent capacity ↔ Careful state action := by
  cases action with
  | step action =>
      have kept := ((step_move taken).accounted accounted).consistent
      simp [Careful, kept]
  | consumer index executed =>
      simp only [signalStep, Option.bind_eq_some_iff, Option.map_eq_some_iff,
        Prod.mk.injEq] at taken
      obtain ⟨consumer, found, shm, _, rfl, _⟩ := taken
      rw [consumer_interrupted_iff accounted found]
      simp [Careful, found]
  | manager index executed =>
      simp only [signalStep, Option.bind_eq_some_iff, Option.map_eq_some_iff,
        Prod.mk.injEq] at taken
      obtain ⟨_, _, manager, found, shm, _, rfl, _⟩ := taken
      rw [manager_interrupted_iff accounted found]
      simp [Careful, found]

theorem signalStep_accounted {action : SignalAction Seed}
    (accounted : state.Accounted capacity) (careful : Careful state action)
    (taken : signalStep program state action = some (next, events)) :
    next.Accounted capacity := by
  have consistent := (signalStep_consistent_iff accounted taken).mpr careful
  cases action with
  | step action => exact (step_move taken).accounted accounted
  | consumer index executed =>
      simp only [signalStep, Option.bind_eq_some_iff, Option.map_eq_some_iff,
        Prod.mk.injEq] at taken
      obtain ⟨consumer, found, shm, _, rfl, _⟩ := taken
      have fewer := census_set Consumer.inside found .ended
      apply consistent.accounted accounted rfl
      simp only [State.inside, Consumer.inside_ended] at fewer ⊢
      omega
  | manager index executed =>
      simp only [signalStep, Option.bind_eq_some_iff, Option.map_eq_some_iff,
        Prod.mk.injEq] at taken
      obtain ⟨_, _, manager, found, shm, _, rfl, _⟩ := taken
      have fewer := census_set Manager.inside found .ended
      apply consistent.accounted accounted rfl
      simp only [State.inside, Manager.inside_ended] at fewer ⊢
      omega

theorem careful_run_accounted {trace : List (Event Order Receipt)}
    (run : (interruptible program).RunWithin Careful (initial program)
      trace state) : state.Accounted program.capacity :=
  run.invariant (fun reached => reached.Accounted program.capacity)
    (initial_accounted program)
    fun accounted careful taken =>
      signalStep_accounted accounted careful taken

end Runs

end SysOp.Lab5
