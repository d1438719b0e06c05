import SysOp.Lab5.Protocol

/-!
# Token accounting

A process between a wait and the matching post carries a token that is in no
semaphore.  Adding the carried tokens to the semaphore values gives sums that
no step changes, whatever the critical sections do to the memory.
-/

namespace SysOp.Lab5

open SysOp.Foundation

section Weights

variable {Order Receipt : Type}

/-- Between `sem_wait(mutex)` and `sem_post(mutex)`. -/
def Producer.inside : Producer Order → Nat
  | .inserting _ _ | .postMutex _ => 1
  | _ => 0

/-- Between `sem_wait(empty)` and `sem_post(full)`. -/
def Producer.holdsSlot : Producer Order → Nat
  | .waitMutex _ _ | .inserting _ _ | .postMutex _ | .postFull _ => 1
  | _ => 0

/-- Inserted, but `full` not yet posted. -/
def Producer.unposted : Producer Order → Nat
  | .postMutex _ | .postFull _ => 1
  | _ => 0

def Consumer.inside : Consumer Receipt → Nat
  | .removing | .postMutex _ => 1
  | _ => 0

/-- Between `sem_wait(full)` and `sem_post(empty)`. -/
def Consumer.holdsTask : Consumer Receipt → Nat
  | .waitMutex | .removing | .postMutex _ | .postEmpty _ => 1
  | _ => 0

/-- Past `sem_wait(full)`, but nothing removed yet. -/
def Consumer.unserved : Consumer Receipt → Nat
  | .waitMutex | .removing => 1
  | _ => 0

def Manager.inside : Manager → Nat
  | .waitMutex | .ended => 0
  | _ => 1

/-- In its critical section with the aging step behind it. -/
def Manager.pastAging : Manager → Nat
  | .waitMutex | .aging | .ended => 0
  | _ => 1

theorem Producer.unposted_le_holdsSlot (producer : Producer Order) :
    producer.unposted ≤ producer.holdsSlot := by
  cases producer <;> simp [unposted, holdsSlot]

theorem Consumer.unserved_le_holdsTask (consumer : Consumer Receipt) :
    consumer.unserved ≤ consumer.holdsTask := by
  cases consumer <;> simp [unserved, holdsTask]

end Weights

variable {Memory Seed Order Receipt : Type}

/-- Processes inside a critical section. -/
def State.inside (state : State Memory Order Receipt) : Nat :=
  census Producer.inside state.producers +
    census Consumer.inside state.consumers +
    census Manager.inside state.managers

def State.slotsHeld (state : State Memory Order Receipt) : Nat :=
  census Producer.holdsSlot state.producers

def State.tasksHeld (state : State Memory Order Receipt) : Nat :=
  census Consumer.holdsTask state.consumers

def State.unposted (state : State Memory Order Receipt) : Nat :=
  census Producer.unposted state.producers

def State.unserved (state : State Memory Order Receipt) : Nat :=
  census Consumer.unserved state.consumers

/-- The two sums every step preserves. -/
structure State.Accounted (capacity : Nat)
    (state : State Memory Order Receipt) : Prop where
  mutex : state.ipc.mutex + state.inside = 1
  tokens : state.ipc.empty + state.ipc.full + state.slotsHeld +
    state.tasksHeld = capacity

section Conservation

variable {program : Program Memory Seed Order Receipt} {seed : Seed}
  {ipc next : Ipc Memory} {events : List (Event Order Receipt)}

/-- One producer step moves tokens between the semaphores and the producer,
and inserts at most one task while it holds a slot for it. -/
theorem producerStep_conserves {before after : Producer Order}
    (moved : producerStep program seed ipc before =
      some (next, after, events)) :
    next.mutex + after.inside = ipc.mutex + before.inside ∧
      next.empty + next.full + after.holdsSlot =
        ipc.empty + ipc.full + before.holdsSlot := by
  cases before with
  | creating left =>
      cases left with
      | zero => simp [producerStep] at moved
      | succ left =>
          cases moved
          exact ⟨rfl, rfl⟩
  | waitEmpty left order =>
      simp only [producerStep, Option.map_eq_some_iff, semWait_eq_some_iff,
        Prod.mk.injEq] at moved
      obtain ⟨empty, positive, rfl, rfl, rfl⟩ := moved
      refine ⟨rfl, ?_⟩
      simp only [Producer.holdsSlot]
      omega
  | waitMutex left order =>
      simp only [producerStep, Option.map_eq_some_iff, semWait_eq_some_iff,
        Prod.mk.injEq] at moved
      obtain ⟨mutex, positive, rfl, rfl, rfl⟩ := moved
      refine ⟨?_, rfl⟩
      simp only [Producer.inside]
      omega
  | inserting left order =>
      cases moved
      exact ⟨rfl, rfl⟩
  | postMutex left =>
      cases moved
      exact ⟨rfl, rfl⟩
  | postFull left =>
      cases moved
      exact ⟨rfl, rfl⟩

theorem consumerStep_conserves {before after : Consumer Receipt}
    (moved : consumerStep program ipc before = some (next, after, events)) :
    next.mutex + after.inside = ipc.mutex + before.inside ∧
      next.empty + next.full + after.holdsTask =
        ipc.empty + ipc.full + before.holdsTask := by
  cases before with
  | waitFull =>
      simp only [consumerStep, Option.map_eq_some_iff, semWait_eq_some_iff,
        Prod.mk.injEq] at moved
      obtain ⟨full, positive, rfl, rfl, rfl⟩ := moved
      refine ⟨rfl, ?_⟩
      simp only [Consumer.holdsTask]
      omega
  | waitMutex =>
      simp only [consumerStep, Option.map_eq_some_iff, semWait_eq_some_iff,
        Prod.mk.injEq] at moved
      obtain ⟨mutex, positive, rfl, rfl, rfl⟩ := moved
      refine ⟨?_, rfl⟩
      simp only [Consumer.inside]
      omega
  | removing =>
      cases moved
      exact ⟨rfl, rfl⟩
  | postMutex receipt =>
      cases moved
      exact ⟨rfl, rfl⟩
  | postEmpty receipt =>
      cases moved
      refine ⟨rfl, ?_⟩
      simp only [semPost, Consumer.holdsTask]
      omega
  | processing receipt =>
      cases moved
      exact ⟨rfl, rfl⟩
  | ended => simp [consumerStep] at moved

theorem managerStep_conserves {manager : ManagerProgram Memory}
    {before after : Manager}
    (moved : managerStep manager ipc before = some (next, after, events)) :
    next.mutex + after.inside = ipc.mutex + before.inside ∧
      next.empty = ipc.empty ∧ next.full = ipc.full := by
  cases before with
  | waitMutex =>
      simp only [managerStep, Option.map_eq_some_iff, semWait_eq_some_iff,
        Prod.mk.injEq] at moved
      obtain ⟨mutex, positive, rfl, rfl, rfl⟩ := moved
      simp [Manager.inside, positive]
  | ended => simp [managerStep] at moved
  | aging | readEmpty | readFull | checking | postMutex =>
      cases moved
      exact ⟨rfl, rfl, rfl⟩

theorem initial_accounted (program : Program Memory Seed Order Receipt) :
    (initial program).Accounted program.capacity where
  mutex := rfl
  tokens := by simp [initial, State.slotsHeld, State.tasksHeld]

theorem Move.accounted {capacity : Nat}
    {state after : State Memory Order Receipt}
    (move : Move program state after events)
    (accounted : state.Accounted capacity) : after.Accounted capacity := by
  obtain ⟨mutex, tokens⟩ := accounted
  simp only [State.inside, State.slotsHeld, State.tasksHeld] at mutex tokens
  constructor <;> simp only [State.inside, State.slotsHeld, State.tasksHeld]
  case mutex =>
    cases move with
    | startProducer tasks => simpa [Producer.inside] using mutex
    | startConsumer => simpa [Consumer.inside] using mutex
    | startManager => simpa [Manager.inside] using mutex
    | producer found moved =>
        have step := (producerStep_conserves moved).1
        have moves := census_set Producer.inside found
        grind
    | consumer found moved =>
        have step := (consumerStep_conserves moved).1
        have moves := census_set Consumer.inside found
        grind
    | manager managed found moved =>
        have step := (managerStep_conserves moved).1
        have moves := census_set Manager.inside found
        grind
  case tokens =>
    cases move with
    | startProducer tasks => simpa [Producer.holdsSlot] using tokens
    | startConsumer => simpa [Consumer.holdsTask] using tokens
    | startManager => exact tokens
    | producer found moved =>
        have step := (producerStep_conserves moved).2
        have moves := census_set Producer.holdsSlot found
        grind
    | consumer found moved =>
        have step := (consumerStep_conserves moved).2
        have moves := census_set Consumer.holdsTask found
        grind
    | manager managed found moved =>
        obtain ⟨_, sameEmpty, sameFull⟩ := managerStep_conserves moved
        simpa [sameEmpty, sameFull] using tokens

end Conservation

end SysOp.Lab5
