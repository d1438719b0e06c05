import SysOp.Foundation.Names
import SysOp.Foundation.Projection
import SysOp.Lab5.Accounting

/-!
# How the processes come to the protocol, and the cleaner

Every process opens the shared memory and the three semaphores by their names,
or creates them, and then takes part in the protocol with what it has got.
`cleaner.c` unlinks the four names; whoever has the objects open keeps them.

A process may also leave while it sets up, as a call fails or a signal comes.
-/

namespace SysOp.Lab5

open SysOp.Foundation

/-- What the kernel has for the four names.  Shared memory has no size before
`ftruncate`. -/
structure Kernel (Memory : Type) where
  shm : Named (Option Memory)
  mutex : Named Nat
  empty : Named Nat
  full : Named Nat

/-- `shm_ptr`, `mutex`, `empty` and `full` of a process. -/
structure Handles where
  shm : Nat
  mutex : Nat
  empty : Nat
  full : Nat
  deriving DecidableEq

/-- Before one of the calls, with what the earlier ones have returned. -/
inductive Setup where
  | openingShm
  | truncating (shm : Nat)
  | mapping (shm : Nat)
  | openingMutex (shm : Nat)
  | openingEmpty (shm mutex : Nat)
  | openingFull (shm mutex empty : Nat)
  deriving DecidableEq

inductive Cleaner where
  | resting
  | unlinkingMutex
  | unlinkingEmpty
  | unlinkingFull
  deriving DecidableEq

namespace Startup

section Model

variable {Memory Seed Order Receipt : Type}

/-- What a process becomes after its setup; only a stage that has a manager can
start one. -/
inductive Role (program : Program Memory Seed Order Receipt) where
  | producer (tasks : Nat)
  | consumer
  | manager (managed : program.manager.isSome)

structure State (program : Program Memory Seed Order Receipt) where
  kernel : Kernel Memory
  settingUp : List (Role program × Setup)
  producers : List (Handles × Producer Order)
  consumers : List (Handles × Consumer Receipt)
  managers : List (Handles × Manager)
  cleaner : Cleaner

/-- `leave` ends a process that has not come to the protocol. -/
inductive Action (program : Program Memory Seed Order Receipt) where
  | spawn (role : Role program)
  | setup (index : Nat)
  | leave (index : Nat)
  | producer (index : Nat) (seed : Seed)
  | consumer (index : Nat)
  | manager (index : Nat)
  | clean

variable (program : Program Memory Seed Order Receipt)

/-- What the objects hold. -/
def ipc (kernel : Kernel Memory) (handles : Handles) : Ipc Memory where
  mutex := kernel.mutex.read 1 handles.mutex
  empty := kernel.empty.read program.capacity handles.empty
  full := kernel.full.read 0 handles.full
  shm := (kernel.shm.read none handles.shm).getD program.zeroed

def write (kernel : Kernel Memory) (handles : Handles) (ipc : Ipc Memory) :
    Kernel Memory where
  mutex := kernel.mutex.write handles.mutex ipc.mutex
  empty := kernel.empty.write handles.empty ipc.empty
  full := kernel.full.write handles.full ipc.full
  shm := kernel.shm.write handles.shm (some ipc.shm)

/-- `ftruncate` keeps what is there and fills the rest with zeros. -/
def truncate (kernel : Kernel Memory) (shm : Nat) : Kernel Memory :=
  { kernel with
    shm := kernel.shm.write shm
      (some ((kernel.shm.read none shm).getD program.zeroed)) }

/-- The next call of the setup; the last one leads to the protocol. -/
def setupStep (kernel : Kernel Memory) :
    Setup → Kernel Memory × (Setup ⊕ Handles)
  | .openingShm =>
      let (named, shm) := kernel.shm.openCreate none
      ({ kernel with shm := named }, .inl (.truncating shm))
  | .truncating shm => (truncate program kernel shm, .inl (.mapping shm))
  | .mapping shm => (kernel, .inl (.openingMutex shm))
  | .openingMutex shm =>
      let (named, mutex) := kernel.mutex.openCreate 1
      ({ kernel with mutex := named }, .inl (.openingEmpty shm mutex))
  | .openingEmpty shm mutex =>
      let (named, empty) := kernel.empty.openCreate program.capacity
      ({ kernel with empty := named }, .inl (.openingFull shm mutex empty))
  | .openingFull shm mutex empty =>
      let (named, full) := kernel.full.openCreate 0
      ({ kernel with full := named }, .inr ⟨shm, mutex, empty, full⟩)

/-- `cleaner.c`. -/
def cleanerStep (kernel : Kernel Memory) : Cleaner → Kernel Memory × Cleaner
  | .resting => ({ kernel with shm := kernel.shm.unlink }, .unlinkingMutex)
  | .unlinkingMutex =>
      ({ kernel with mutex := kernel.mutex.unlink }, .unlinkingEmpty)
  | .unlinkingEmpty =>
      ({ kernel with empty := kernel.empty.unlink }, .unlinkingFull)
  | .unlinkingFull => ({ kernel with full := kernel.full.unlink }, .resting)

/-- A step of the protocol on what the process has open. -/
def runStep {Process : Type} (kernel : Kernel Memory)
    (step : Ipc Memory → Process →
      Option (Ipc Memory × Process × List (Event Order Receipt))) :
    Handles × Process →
      Option (Kernel Memory × (Handles × Process) ×
        List (Handles × Event Order Receipt))
  | (handles, process) =>
      (step (ipc program kernel handles) process).map
        fun (after, process, events) =>
          (write kernel handles after, (handles, process),
            events.map (handles, ·))

variable {program}

/-- A process comes to the protocol. -/
def State.join (state : State program) (handles : Handles) :
    Role program → State program
  | .producer tasks =>
      { state with producers := state.producers ++ [(handles, .creating tasks)] }
  | .consumer =>
      { state with consumers := state.consumers ++ [(handles, .waitFull)] }
  | .manager _ =>
      { state with managers := state.managers ++ [(handles, .waitMutex)] }

def step (state : State program) :
    Action program →
      Option (State program × List (Handles × Event Order Receipt))
  | .spawn role =>
      some ({ state with
        settingUp := state.settingUp ++ [(role, .openingShm)] }, [])
  | .setup index =>
      state.settingUp[index]?.map fun (role, setup) =>
        match setupStep program state.kernel setup with
        | (kernel, .inl setup) =>
            ({ state with
                kernel
                settingUp := state.settingUp.set index (role, setup) }, [])
        | (kernel, .inr handles) =>
            ({ state with
                kernel
                settingUp := state.settingUp.eraseIdx index }.join handles
              role, [])
  | .leave index =>
      some ({ state with settingUp := state.settingUp.eraseIdx index }, [])
  | .producer index seed =>
      (moveAt state.producers index
        (runStep program state.kernel (producerStep program seed))).map
        fun (kernel, producers, events) =>
          ({ state with kernel, producers }, events)
  | .consumer index =>
      (moveAt state.consumers index
        (runStep program state.kernel (consumerStep program))).map
        fun (kernel, consumers, events) =>
          ({ state with kernel, consumers }, events)
  | .manager index =>
      program.manager.bind fun manager =>
        (moveAt state.managers index
          (runStep program state.kernel (managerStep manager))).map
          fun (kernel, managers, events) =>
            ({ state with kernel, managers }, events)
  | .clean =>
      let (kernel, cleaner) := cleanerStep state.kernel state.cleaner
      some ({ state with kernel, cleaner }, [])

def initial : State program where
  kernel := ⟨.init, .init, .init, .init⟩
  settingUp := []
  producers := []
  consumers := []
  managers := []
  cleaner := .resting

variable (program) in
def startup : Machine (State program) (Action program)
    (Handles × Event Order Receipt) where
  start := initial
  step := step

inductive Move (state : State program) :
    Action program → State program →
      List (Handles × Event Order Receipt) → Prop where
  | spawn (role : Role program) :
      Move state (.spawn role) { state with
        settingUp := state.settingUp ++ [(role, .openingShm)] } []
  | setUp {index : Nat} {role : Role program} {before after : Setup}
      {kernel : Kernel Memory}
      (found : state.settingUp[index]? = some (role, before))
      (called : setupStep program state.kernel before =
        (kernel, .inl after)) :
      Move state (.setup index) { state with
        kernel, settingUp := state.settingUp.set index (role, after) } []
  | join {index : Nat} {role : Role program} {before : Setup}
      {kernel : Kernel Memory} {handles : Handles}
      (found : state.settingUp[index]? = some (role, before))
      (called : setupStep program state.kernel before =
        (kernel, .inr handles)) :
      Move state (.setup index) ({ state with
        kernel, settingUp := state.settingUp.eraseIdx index }.join handles
          role) []
  | leave (index : Nat) :
      Move state (.leave index) { state with
        settingUp := state.settingUp.eraseIdx index } []
  | producer {index : Nat} {seed : Seed} {handles : Handles}
      {before after : Producer Order} {result : Ipc Memory}
      {events : List (Event Order Receipt)}
      (found : state.producers[index]? = some (handles, before))
      (moved : producerStep program seed (ipc program state.kernel handles)
        before = some (result, after, events)) :
      Move state (.producer index seed) { state with
        kernel := write state.kernel handles result
        producers := state.producers.set index (handles, after) }
        (events.map (handles, ·))
  | consumer {index : Nat} {handles : Handles}
      {before after : Consumer Receipt} {result : Ipc Memory}
      {events : List (Event Order Receipt)}
      (found : state.consumers[index]? = some (handles, before))
      (moved : consumerStep program (ipc program state.kernel handles)
        before = some (result, after, events)) :
      Move state (.consumer index) { state with
        kernel := write state.kernel handles result
        consumers := state.consumers.set index (handles, after) }
        (events.map (handles, ·))
  | manager {manager : ManagerProgram Memory} {index : Nat}
      {handles : Handles} {before after : Manager} {result : Ipc Memory}
      {events : List (Event Order Receipt)}
      (managed : program.manager = some manager)
      (found : state.managers[index]? = some (handles, before))
      (moved : managerStep manager (ipc program state.kernel handles)
        before = some (result, after, events)) :
      Move state (.manager index) { state with
        kernel := write state.kernel handles result
        managers := state.managers.set index (handles, after) }
        (events.map (handles, ·))
  | clean :
      Move state .clean { state with
        kernel := (cleanerStep state.kernel state.cleaner).1
        cleaner := (cleanerStep state.kernel state.cleaner).2 } []

theorem runStep_eq_some {Process : Type} {kernel after : Kernel Memory}
    {step : Ipc Memory → Process →
      Option (Ipc Memory × Process × List (Event Order Receipt))}
    {handles : Handles} {process : Process} {next : Handles × Process}
    {events : List (Handles × Event Order Receipt)}
    (moved : runStep program kernel step (handles, process) =
      some (after, next, events)) :
    ∃ result later emitted,
      step (ipc program kernel handles) process =
          some (result, later, emitted) ∧
        after = write kernel handles result ∧ next = (handles, later) ∧
        events = emitted.map (handles, ·) := by
  obtain ⟨⟨result, later, emitted⟩, stepped, same⟩ :=
    Option.map_eq_some_iff.mp moved
  cases same
  exact ⟨result, later, emitted, stepped, rfl, rfl, rfl⟩

theorem step_move {state next : State program} {action : Action program}
    {events : List (Handles × Event Order Receipt)}
    (taken : step state action = some (next, events)) :
    Move state action next events := by
  cases action with
  | spawn role =>
      cases taken
      exact .spawn role
  | setup index =>
      obtain ⟨⟨role, before⟩, found, same⟩ := Option.map_eq_some_iff.mp taken
      dsimp only at same
      split at same
      next kernel after called => cases same; exact .setUp found called
      next kernel handles called => cases same; exact .join found called
  | leave index =>
      cases taken
      exact .leave index
  | producer index seed =>
      simp only [step, Option.map_eq_some_iff, Prod.exists, Prod.mk.injEq,
        moveAt_eq_some_iff] at taken
      obtain ⟨kernel, _, _, ⟨handles, before, after, later, found, moved, rfl⟩,
        rfl, rfl⟩ := taken
      obtain ⟨result, last, emitted, stepped, rfl, same, rfl⟩ :=
        runStep_eq_some moved
      cases same
      exact .producer found stepped
  | consumer index =>
      simp only [step, Option.map_eq_some_iff, Prod.exists, Prod.mk.injEq,
        moveAt_eq_some_iff] at taken
      obtain ⟨kernel, _, _, ⟨handles, before, after, later, found, moved, rfl⟩,
        rfl, rfl⟩ := taken
      obtain ⟨result, last, emitted, stepped, rfl, same, rfl⟩ :=
        runStep_eq_some moved
      cases same
      exact .consumer found stepped
  | manager index =>
      simp only [step, Option.bind_eq_some_iff, Option.map_eq_some_iff,
        Prod.exists, Prod.mk.injEq, moveAt_eq_some_iff] at taken
      obtain ⟨manager, managed, kernel, _, _,
        ⟨handles, before, after, later, found, moved, rfl⟩, rfl, rfl⟩ := taken
      obtain ⟨result, last, emitted, stepped, rfl, same, rfl⟩ :=
        runStep_eq_some moved
      cases same
      exact .manager managed found stepped
  | clean =>
      cases taken
      exact .clean

end Model

end Startup

end SysOp.Lab5
