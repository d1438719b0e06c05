import SysOp.Lab5.Accounting
import SysOp.Lab5.Store

/-!
# Programs implement stores

A program implements a store when each critical-section body, run on memory
that represents a content, does what the store does, provided an insertion
finds room and a removal finds a task.  The body tests neither; that both
hold whenever a process gets inside is what the token accounting gives.
-/

namespace SysOp.Lab5

open SysOp.Foundation

variable {Memory Seed Order Receipt Content : Type}

structure Program.Implements (program : Program Memory Seed Order Receipt)
    (store : Store Order Receipt Content)
    (represents : Memory → Content → Prop) : Prop where
  zeroed : represents program.zeroed store.empty
  insert : ∀ {memory content} (order : Order), represents memory content →
    store.size content < program.capacity →
    represents (execBody (program.insert order) memory)
      (store.put order content)
  remove : ∀ {memory content}, represents memory content →
    0 < store.size content →
    ∃ rest,
      store.take content =
        some ((execBody (program.remove memory) (memory, program.locals)).2,
          rest) ∧
      represents
        (execBody (program.remove memory) (memory, program.locals)).1 rest
  age : ∀ {manager memory content}, program.manager = some manager →
    represents memory content → store.size content ≤ program.capacity →
    represents (execBody (manager.age memory) (memory, Task.zeroed)).1
      (store.promote content)

/-- A state keeps the books for a content: the token sums hold, the stored
tasks are those `full` announces or will announce, less those already
promised to a consumer, and the memory represents them. -/
structure State.Keeps (capacity : Nat) (store : Store Order Receipt Content)
    (represents : Memory → Content → Prop)
    (state : State Memory Order Receipt) (content : Content) : Prop where
  accounted : state.Accounted capacity
  stored : store.size content =
    state.ipc.full + state.unposted + state.unserved
  represented : represents state.ipc.shm content

section Effects

variable {program : Program Memory Seed Order Receipt} {seed : Seed}
  {ipc next : Ipc Memory} {events : List (Event Order Receipt)}

/-- A producer step is an insertion, or it leaves the memory alone. -/
theorem producerStep_effect {before after : Producer Order}
    (moved : producerStep program seed ipc before =
      some (next, after, events)) :
    (∃ left order, before = .inserting left order ∧
      after = .postMutex left ∧ events = [.inserted order] ∧
      next = { ipc with shm := execBody (program.insert order) ipc.shm }) ∨
    (events = [] ∧ next.shm = ipc.shm ∧
      next.full + after.unposted = ipc.full + before.unposted) := by
  cases before with
  | creating left =>
      cases left with
      | zero => simp [producerStep] at moved
      | succ left =>
          cases moved
          exact .inr ⟨rfl, rfl, rfl⟩
  | waitEmpty left order =>
      simp only [producerStep, Option.map_eq_some_iff, Prod.mk.injEq] at moved
      obtain ⟨empty, _, rfl, rfl, rfl⟩ := moved
      exact .inr ⟨rfl, rfl, rfl⟩
  | waitMutex left order =>
      simp only [producerStep, Option.map_eq_some_iff, Prod.mk.injEq] at moved
      obtain ⟨mutex, _, rfl, rfl, rfl⟩ := moved
      exact .inr ⟨rfl, rfl, rfl⟩
  | inserting left order =>
      cases moved
      exact .inl ⟨left, order, rfl, rfl, rfl, rfl⟩
  | postMutex left =>
      cases moved
      exact .inr ⟨rfl, rfl, rfl⟩
  | postFull left =>
      cases moved
      exact .inr ⟨rfl, rfl, rfl⟩

/-- A consumer step is a removal, or it leaves the memory alone. -/
theorem consumerStep_effect {before after : Consumer Receipt}
    (moved : consumerStep program ipc before = some (next, after, events)) :
    (before = .removing ∧ ∃ receipt, after = .postMutex receipt ∧
      events = [.removed receipt] ∧
      ∃ shm, next = { ipc with shm } ∧
        execBody (program.remove ipc.shm) (ipc.shm, program.locals) =
          (shm, receipt)) ∨
    (events = [] ∧ next.shm = ipc.shm ∧
      next.full + after.unserved = ipc.full + before.unserved) := by
  cases before with
  | waitFull =>
      simp only [consumerStep, Option.map_eq_some_iff, semWait_eq_some_iff,
        Prod.mk.injEq] at moved
      obtain ⟨full, positive, rfl, rfl, rfl⟩ := moved
      exact .inr ⟨rfl, rfl, positive.symm⟩
  | waitMutex =>
      simp only [consumerStep, Option.map_eq_some_iff, Prod.mk.injEq] at moved
      obtain ⟨mutex, _, rfl, rfl, rfl⟩ := moved
      exact .inr ⟨rfl, rfl, rfl⟩
  | removing =>
      cases moved
      exact .inl ⟨rfl, _, rfl, rfl, _, rfl, rfl⟩
  | postMutex receipt | postEmpty receipt | processing receipt =>
      cases moved
      exact .inr ⟨rfl, rfl, rfl⟩
  | ended => simp [consumerStep] at moved

/-- A manager step is an aging step, or it leaves the memory alone and emits
only what no store reads. -/
theorem managerStep_effect {manager : ManagerProgram Memory}
    {before after : Manager}
    (moved : managerStep manager ipc before = some (next, after, events)) :
    (before = .aging ∧ after = .readEmpty ∧ events = [.aged] ∧
      next = { ipc with
        shm := (execBody (manager.age ipc.shm) (ipc.shm, Task.zeroed)).1 }) ∨
    (next.shm = ipc.shm ∧ next.full = ipc.full ∧
      ∀ event ∈ events,
        event = .managerEntered ∨ event = .warned ∨ event = .managerLeft) := by
  cases before with
  | waitMutex =>
      simp only [managerStep, Option.map_eq_some_iff, Prod.mk.injEq] at moved
      obtain ⟨mutex, _, rfl, rfl, rfl⟩ := moved
      exact .inr ⟨rfl, rfl, by simp⟩
  | aging =>
      cases moved
      exact .inl ⟨rfl, rfl, rfl, rfl⟩
  | readEmpty | readFull | postMutex =>
      cases moved
      exact .inr ⟨rfl, rfl, by simp⟩
  | checking emptyVal fullVal =>
      cases moved
      refine .inr ⟨rfl, rfl, fun event emitted => ?_⟩
      split at emitted <;> simp_all
  | ended => simp [managerStep] at moved

end Effects

section Books

variable {capacity : Nat} {store : Store Order Receipt Content}
  {represents : Memory → Content → Prop}
  {state : State Memory Order Receipt} {content : Content}

theorem State.Keeps.size_le
    (keeps : state.Keeps capacity store represents content) :
    store.size content ≤ capacity := by
  have tokens := keeps.accounted.tokens
  have stored := keeps.stored
  have slots := census_le_census Producer.unposted_le_holdsSlot state.producers
  have tasks := census_le_census Consumer.unserved_le_holdsTask state.consumers
  simp only [State.slotsHeld, State.tasksHeld, State.unposted,
    State.unserved] at tokens stored
  omega

/-- A producer about to insert finds room: the slot it holds is in no count
of stored tasks. -/
theorem State.Keeps.room
    (keeps : state.Keeps capacity store represents content)
    {index left : Nat} {order : Order}
    (found : state.producers[index]? = some (.inserting left order)) :
    store.size content < capacity := by
  have tokens := keeps.accounted.tokens
  have stored := keeps.stored
  have tasks := census_le_census Consumer.unserved_le_holdsTask state.consumers
  -- the bound on unposted tasks, for the state after the insertion
  have slots := census_le_census Producer.unposted_le_holdsSlot
    (state.producers.set index (.postMutex left))
  have moreUnposted := census_set Producer.unposted found (.postMutex left)
  have sameSlots := census_set Producer.holdsSlot found (.postMutex left)
  simp only [State.slotsHeld, State.tasksHeld, State.unposted, State.unserved,
    Producer.unposted, Producer.holdsSlot] at *
  omega

/-- A consumer about to remove finds a task: the one it was promised. -/
theorem State.Keeps.waiting
    (keeps : state.Keeps capacity store represents content) {index : Nat}
    (found : state.consumers[index]? = some .removing) :
    0 < store.size content := by
  have stored := keeps.stored
  have promised := le_census Consumer.unserved found
  simp only [State.unserved, Consumer.unserved] at *
  omega

end Books

section Simulation

variable [DecidableEq Receipt] {program : Program Memory Seed Order Receipt}
  {store : Store Order Receipt Content}
  {represents : Memory → Content → Prop}
  {state next : State Memory Order Receipt} {content : Content}
  {events : List (Event Order Receipt)}

theorem accept_unread (store : Store Order Receipt Content)
    (content : Content)
    (unread : ∀ event ∈ events,
      event = .managerEntered ∨ event = .warned ∨ event = .managerLeft) :
    store.acceptor.accept content events = some content := by
  induction events with
  | nil => rfl
  | cons event rest inductionHypothesis =>
      have remaining := inductionHypothesis fun other later =>
        unread other (List.mem_cons_of_mem event later)
      rcases unread event List.mem_cons_self with rfl | rfl | rfl <;>
        simpa using remaining

omit [DecidableEq Receipt] in
theorem initial_keeps (implements : program.Implements store represents) :
    (initial program).Keeps program.capacity store represents store.empty where
  accounted := initial_accounted program
  stored := by simp [initial, State.unposted, State.unserved, store.size_empty]
  represented := implements.zeroed

theorem Move.keeps (implements : program.Implements store represents)
    (keeps : state.Keeps program.capacity store represents content)
    (move : Move program state next events) :
    ∃ after, store.acceptor.accept content events = some after ∧
      next.Keeps program.capacity store represents after := by
  have accounted := move.accounted keeps.accounted
  have stored := keeps.stored
  have represented := keeps.represented
  simp only [State.unposted, State.unserved] at stored
  cases move with
  | startProducer tasks =>
      refine ⟨content, rfl, accounted, ?_, represented⟩
      simpa [State.unposted, State.unserved, Producer.unposted] using stored
  | startConsumer =>
      refine ⟨content, rfl, accounted, ?_, represented⟩
      simpa [State.unposted, State.unserved, Consumer.unserved] using stored
  | startManager => exact ⟨content, rfl, accounted, stored, represented⟩
  | @producer index seed before after ipc events found moved =>
      have counted := census_set Producer.unposted found after
      rcases producerStep_effect moved with
        ⟨left, order, rfl, rfl, rfl, rfl⟩ | ⟨rfl, sameMemory, sameSum⟩
      · refine ⟨store.put order content, by simp, accounted, ?_,
          implements.insert order represented (keeps.room found)⟩
        simp only [store.size_put, State.unposted, State.unserved,
          Producer.unposted] at counted ⊢
        omega
      · refine ⟨content, rfl, accounted, ?_, sameMemory ▸ represented⟩
        simp only [State.unposted, State.unserved]
        omega
  | @consumer index before after ipc events found moved =>
      have counted := census_set Consumer.unserved found after
      rcases consumerStep_effect moved with
        ⟨rfl, receipt, rfl, rfl, shm, rfl, executed⟩ | ⟨rfl, sameMemory, sameSum⟩
      · obtain ⟨rest, took, representedRest⟩ :=
          implements.remove represented (keeps.waiting found)
        rw [executed] at took representedRest
        refine ⟨rest, by simp [took], accounted, ?_, representedRest⟩
        have fewer := store.size_take took
        simp only [State.unposted, State.unserved, Consumer.unserved]
          at counted ⊢
        omega
      · refine ⟨content, rfl, accounted, ?_, sameMemory ▸ represented⟩
        simp only [State.unposted, State.unserved]
        omega
  | @manager manager index before after ipc events managed found moved =>
      rcases managerStep_effect moved with
        ⟨rfl, rfl, rfl, rfl⟩ | ⟨sameMemory, sameFull, unread⟩
      · refine ⟨store.promote content, by simp, accounted, ?_,
          implements.age managed represented keeps.size_le⟩
        rw [store.size_promote]
        exact stored
      · refine ⟨content, accept_unread store content unread, accounted, ?_,
          sameMemory ▸ represented⟩
        simpa [State.unposted, State.unserved, sameFull] using stored

/-- Every run from a state that keeps the books for a content is a history of
the store from that content, and keeps the books at its end. -/
theorem run_refines (implements : program.Implements store represents)
    {trace : List (Event Order Receipt)}
    (run : (system program).Run state trace next)
    (keeps : state.Keeps program.capacity store represents content) :
    ∃ final, store.acceptor.accept content trace = some final ∧
      next.Keeps program.capacity store represents final := by
  refine run.accepted (fun reached current =>
      reached.Keeps program.capacity store represents current) keeps ?_
  intro reached action following emitted current held _ taken
  exact (step_move taken).keeps implements held

end Simulation

end SysOp.Lab5
