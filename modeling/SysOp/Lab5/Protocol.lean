import SysOp.Foundation.Machine
import SysOp.Foundation.Population
import SysOp.Lab5.Task

/-!
# The semaphore protocol of the three stages

`producer.c`, `consumer.c` and `manager.c` synchronise alike in all three
stages: a producer takes `empty` before the mutex and posts `full` after it,
a consumer the other way round, the manager takes the mutex alone.  The
stages differ in the shared memory and in what is done to it inside the
critical sections, which is what a `Program` supplies, statement by statement.

A step is one semaphore operation or one critical-section body.
-/

namespace SysOp.Lab5

open SysOp.Foundation

/-- Run the statements of a critical section in order. -/
def execBody {Memory : Type} (body : List (Memory → Memory))
    (memory : Memory) : Memory :=
  body.foldl (fun current statement => statement current) memory

/-- The body of `manager.c`.  `age` and `total` work on the shared memory
and on the local `aging_task`. -/
structure ManagerProgram (Memory : Type) where
  age : Memory → List (Memory × Task → Memory × Task)
  total : Memory → Int

/-- One stage.  `Seed` is what an iteration of the producer draws from
`rand()`, `Order` the task it creates from it, and `Receipt` the variables
a consumer's critical section fills; `locals` is their value before. -/
structure Program (Memory Seed Order Receipt : Type) where
  capacity : Nat
  zeroed : Memory
  create : Seed → Order
  insert : Order → List (Memory → Memory)
  locals : Receipt
  remove : Memory → List (Memory × Receipt → Memory × Receipt)
  manager : Option (ManagerProgram Memory)

/-- The semaphore values and the mapped memory. -/
structure Ipc (Memory : Type) where
  mutex : Nat
  empty : Nat
  full : Nat
  shm : Memory

/-- Program points of `producer.c`; the first argument counts the iterations
still to come. -/
inductive Producer (Order : Type) where
  | creating (left : Nat)
  | waitEmpty (left : Nat) (order : Order)
  | waitMutex (left : Nat) (order : Order)
  | inserting (left : Nat) (order : Order)
  | postMutex (left : Nat)
  | postFull (left : Nat)

/-- Program points of `consumer.c`.  Only a signal leads to `ended`. -/
inductive Consumer (Receipt : Type) where
  | waitFull
  | waitMutex
  | removing
  | postMutex (receipt : Receipt)
  | postEmpty (receipt : Receipt)
  | processing (receipt : Receipt)
  | ended

/-- Program points of `manager.c`.  Only a signal leads to `ended`. -/
inductive Manager where
  | waitMutex
  | aging
  | readEmpty
  | readFull (emptyVal : Nat)
  | checking (emptyVal fullVal : Nat)
  | postMutex
  | ended

inductive Event (Order Receipt : Type) where
  | inserted (order : Order)
  | removed (receipt : Receipt)
  | managerEntered
  | aged
  | warned
  | managerLeft
  deriving DecidableEq

structure State (Memory Order Receipt : Type) where
  ipc : Ipc Memory
  producers : List (Producer Order)
  consumers : List (Consumer Receipt)
  managers : List Manager

/-- Processes may be started at any time.  A producer's seed is used by the
step that creates a task and ignored by all others. -/
inductive Action (Seed : Type) where
  | startProducer (tasks : Nat)
  | startConsumer
  | startManager
  | producer (index : Nat) (seed : Seed)
  | consumer (index : Nat)
  | manager (index : Nat)

/-- `sem_wait` cannot proceed at value 0. -/
def semWait : Nat → Option Nat
  | 0 => none
  | value + 1 => some value

def semPost (value : Nat) : Nat := value + 1

@[simp]
theorem semWait_eq_some_iff {value after : Nat} :
    semWait value = some after ↔ value = after + 1 := by
  cases value <;> simp [semWait]

@[simp]
theorem semWait_eq_none_iff {value : Nat} :
    semWait value = none ↔ value = 0 := by
  cases value <;> simp [semWait]

section Steps

variable {Memory Seed Order Receipt : Type}

def producerStep (program : Program Memory Seed Order Receipt) (seed : Seed)
    (ipc : Ipc Memory) :
    Producer Order →
      Option (Ipc Memory × Producer Order × List (Event Order Receipt))
  | .creating 0 => none
  | .creating (left + 1) =>
      some (ipc, .waitEmpty left (program.create seed), [])
  | .waitEmpty left order =>
      (semWait ipc.empty).map fun empty =>
        ({ ipc with empty }, .waitMutex left order, [])
  | .waitMutex left order =>
      (semWait ipc.mutex).map fun mutex =>
        ({ ipc with mutex }, .inserting left order, [])
  | .inserting left order =>
      some ({ ipc with shm := execBody (program.insert order) ipc.shm },
        .postMutex left, [.inserted order])
  | .postMutex left =>
      some ({ ipc with mutex := semPost ipc.mutex }, .postFull left, [])
  | .postFull left =>
      some ({ ipc with full := semPost ipc.full }, .creating left, [])

def consumerStep (program : Program Memory Seed Order Receipt)
    (ipc : Ipc Memory) :
    Consumer Receipt →
      Option (Ipc Memory × Consumer Receipt × List (Event Order Receipt))
  | .waitFull =>
      (semWait ipc.full).map fun full => ({ ipc with full }, .waitMutex, [])
  | .waitMutex =>
      (semWait ipc.mutex).map fun mutex => ({ ipc with mutex }, .removing, [])
  | .removing =>
      let after := execBody (program.remove ipc.shm) (ipc.shm, program.locals)
      some ({ ipc with shm := after.1 }, .postMutex after.2,
        [.removed after.2])
  | .postMutex receipt =>
      some ({ ipc with mutex := semPost ipc.mutex }, .postEmpty receipt, [])
  | .postEmpty receipt =>
      some ({ ipc with empty := semPost ipc.empty }, .processing receipt, [])
  | .processing _ => some (ipc, .waitFull, [])
  | .ended => none

/-- The manager tests and ages in one body, reads both semaphores and then
compares the task count with what it read. -/
def managerStep (program : ManagerProgram Memory) (ipc : Ipc Memory) :
    Manager → Option (Ipc Memory × Manager × List (Event Order Receipt))
  | .waitMutex =>
      (semWait ipc.mutex).map fun mutex =>
        ({ ipc with mutex }, .aging, [.managerEntered])
  | .aging =>
      let after := execBody (program.age ipc.shm) (ipc.shm, Task.zeroed)
      some ({ ipc with shm := after.1 }, .readEmpty, [.aged])
  | .readEmpty => some (ipc, .readFull ipc.empty, [])
  | .readFull emptyVal => some (ipc, .checking emptyVal ipc.full, [])
  | .checking _ fullVal =>
      some (ipc, .postMutex,
        if program.total ipc.shm ≠ fullVal then [.warned] else [])
  | .postMutex =>
      some ({ ipc with mutex := semPost ipc.mutex }, .waitMutex,
        [.managerLeft])
  | .ended => none

def step (program : Program Memory Seed Order Receipt)
    (state : State Memory Order Receipt) :
    Action Seed →
      Option (State Memory Order Receipt × List (Event Order Receipt))
  | .startProducer tasks =>
      some ({ state with
        producers := state.producers ++ [.creating tasks] }, [])
  | .startConsumer =>
      some ({ state with consumers := state.consumers ++ [.waitFull] }, [])
  | .startManager =>
      program.manager.map fun _ =>
        ({ state with managers := state.managers ++ [.waitMutex] }, [])
  | .producer index seed =>
      (moveAt state.producers index (producerStep program seed state.ipc)).map
        fun (ipc, producers, events) =>
          ({ state with ipc, producers }, events)
  | .consumer index =>
      (moveAt state.consumers index (consumerStep program state.ipc)).map
        fun (ipc, consumers, events) =>
          ({ state with ipc, consumers }, events)
  | .manager index =>
      program.manager.bind fun manager =>
        (moveAt state.managers index (managerStep manager state.ipc)).map
          fun (ipc, managers, events) =>
            ({ state with ipc, managers }, events)

/-- `sem_open` creates the semaphores with 1, K and 0; fresh shared memory
is zeroed; no process has been started. -/
def initial (program : Program Memory Seed Order Receipt) :
    State Memory Order Receipt where
  ipc := { mutex := 1, empty := program.capacity, full := 0,
           shm := program.zeroed }
  producers := []
  consumers := []
  managers := []

def system (program : Program Memory Seed Order Receipt) :
    Machine (State Memory Order Receipt) (Action Seed)
      (Event Order Receipt) where
  start := initial program
  step := step program

/-- What one step of the whole system can be: a start, or a move of one
process on the shared state. -/
inductive Move (program : Program Memory Seed Order Receipt)
    (state : State Memory Order Receipt) :
    State Memory Order Receipt → List (Event Order Receipt) → Prop where
  | startProducer (tasks : Nat) :
      Move program state { state with
        producers := state.producers ++ [.creating tasks] } []
  | startConsumer :
      Move program state { state with
        consumers := state.consumers ++ [.waitFull] } []
  | startManager :
      Move program state { state with
        managers := state.managers ++ [.waitMutex] } []
  | producer {index : Nat} {seed : Seed} {before after : Producer Order}
      {ipc : Ipc Memory} {events : List (Event Order Receipt)}
      (found : state.producers[index]? = some before)
      (moved : producerStep program seed state.ipc before =
        some (ipc, after, events)) :
      Move program state { state with
        ipc, producers := state.producers.set index after } events
  | consumer {index : Nat} {before after : Consumer Receipt}
      {ipc : Ipc Memory} {events : List (Event Order Receipt)}
      (found : state.consumers[index]? = some before)
      (moved : consumerStep program state.ipc before =
        some (ipc, after, events)) :
      Move program state { state with
        ipc, consumers := state.consumers.set index after } events
  | manager {manager : ManagerProgram Memory} {index : Nat}
      {before after : Manager} {ipc : Ipc Memory}
      {events : List (Event Order Receipt)}
      (managed : program.manager = some manager)
      (found : state.managers[index]? = some before)
      (moved : managerStep manager state.ipc before =
        some (ipc, after, events)) :
      Move program state { state with
        ipc, managers := state.managers.set index after } events

section Inversion

variable {program : Program Memory Seed Order Receipt}
  {state next : State Memory Order Receipt} {index : Nat} {seed : Seed}
  {events : List (Event Order Receipt)}

theorem producer_step
    (taken : step program state (.producer index seed) = some (next, events)) :
    ∃ before after ipc, state.producers[index]? = some before ∧
      producerStep program seed state.ipc before =
        some (ipc, after, events) ∧
      next = { state with
        ipc, producers := state.producers.set index after } := by
  simp only [step, Option.map_eq_some_iff, Prod.exists, Prod.mk.injEq,
    moveAt_eq_some_iff] at taken
  obtain ⟨ipc, _, _, ⟨before, after, found, moved, rfl⟩, rfl, rfl⟩ := taken
  exact ⟨before, after, ipc, found, moved, rfl⟩

theorem consumer_step
    (taken : step program state (.consumer index) = some (next, events)) :
    ∃ before after ipc, state.consumers[index]? = some before ∧
      consumerStep program state.ipc before = some (ipc, after, events) ∧
      next = { state with
        ipc, consumers := state.consumers.set index after } := by
  simp only [step, Option.map_eq_some_iff, Prod.exists, Prod.mk.injEq,
    moveAt_eq_some_iff] at taken
  obtain ⟨ipc, _, _, ⟨before, after, found, moved, rfl⟩, rfl, rfl⟩ := taken
  exact ⟨before, after, ipc, found, moved, rfl⟩

theorem manager_step
    (taken : step program state (.manager index) = some (next, events)) :
    ∃ manager before after ipc, program.manager = some manager ∧
      state.managers[index]? = some before ∧
      managerStep manager state.ipc before = some (ipc, after, events) ∧
      next = { state with
        ipc, managers := state.managers.set index after } := by
  simp only [step, Option.bind_eq_some_iff, Option.map_eq_some_iff,
    Prod.exists, Prod.mk.injEq, moveAt_eq_some_iff] at taken
  obtain ⟨manager, managed, ipc, _, _, ⟨before, after, found, moved, rfl⟩,
    rfl, rfl⟩ := taken
  exact ⟨manager, before, after, ipc, managed, found, moved, rfl⟩

theorem step_move {action : Action Seed}
    (taken : step program state action = some (next, events)) :
    Move program state next events := by
  cases action with
  | startProducer tasks =>
      cases taken
      exact .startProducer tasks
  | startConsumer =>
      cases taken
      exact .startConsumer
  | startManager =>
      simp only [step, Option.map_eq_some_iff, Prod.mk.injEq] at taken
      obtain ⟨_, _, rfl, rfl⟩ := taken
      exact .startManager
  | producer index seed =>
      obtain ⟨before, after, ipc, found, moved, rfl⟩ := producer_step taken
      exact .producer found moved
  | consumer index =>
      obtain ⟨before, after, ipc, found, moved, rfl⟩ := consumer_step taken
      exact .consumer found moved
  | manager index =>
      obtain ⟨manager, before, after, ipc, managed, found, moved, rfl⟩ :=
        manager_step taken
      exact .manager managed found moved

end Inversion

end Steps

end SysOp.Lab5
