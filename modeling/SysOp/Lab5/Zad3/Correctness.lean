import SysOp.Lab5.Quiescence
import SysOp.Lab5.Zad3.Memory

/-!
# What holds in every run of stages two and three

The two rings share one pair of counting semaphores.  The books kept by the
semaphores and by the processes under way bound the two rings together, and
that bound is what keeps every insertion and every aging step off the slots
that are still occupied.
-/

namespace SysOp.Lab5.Zad3

open SysOp.Foundation

instance : Nonempty Seed := ⟨⟨fun index => index, 0⟩⟩

/-- A slot the indices and the count declare to hold an unconsumed task. -/
def TaskQueue.Occupied (ring : TaskQueue) (slot : Nat) : Prop :=
  ∃ position : Nat, (position : Int) < ring.count ∧
    slot = (ring.head + position) % K

structure TaskQueue.WellIndexed (ring : TaskQueue) : Prop where
  count_nonneg : 0 ≤ ring.count
  count_le : ring.count ≤ K
  head_lt : ring.head < K
  tail_lt : ring.tail < K
  tail_eq : (ring.tail : Int) = (ring.head + ring.count) % K

theorem TaskQueue.Holds.wellIndexed {ring : TaskQueue} {items : List Task}
    (held : ring.Holds items) : ring.WellIndexed where
  count_nonneg := by
    rw [held.counted]
    exact Int.natCast_nonneg _
  count_le := by
    rw [held.counted]
    exact_mod_cast held.slots.fits
  head_lt := held.slots.head_lt
  tail_lt := held.slots.tail_lt
  tail_eq := by
    rw [held.counted, held.slots.tail_eq]
    push_cast
    rfl

theorem TaskQueue.Holds.tail_free {ring : TaskQueue} {items : List Task}
    (held : ring.Holds items) (room : items.length < K) :
    ¬ ring.Occupied ring.tail := by
  rintro ⟨position, stored, same⟩
  rw [held.counted] at stored
  exact held.slots.tail_free room (by exact_mod_cast stored) same.symm

theorem TaskQueue.Holds.head_occupied {ring : TaskQueue} {task : Task}
    {items : List Task} (held : ring.Holds (task :: items)) :
    ring.Occupied ring.head := by
  refine ⟨0, ?_, ?_⟩
  · simp only [held.counted, List.length_cons]
    omega
  · simp [Nat.mod_eq_of_lt held.slots.head_lt]

theorem Represents.ring {shm : SharedMemory} {queues : Queues}
    (represented : Represents shm queues) :
    ∀ name, (shm.ring name).Holds (queues.list name)
  | .priority => represented.priority
  | .normal => represented.normal

/-- The queue a consumer about to remove will choose. -/
def SharedMemory.chosen (shm : SharedMemory) : QueueName :=
  if 0 < shm.priority.count then .priority else .normal

/-- Accounting, index and slot safety of a state. -/
structure Safe (state : State SharedMemory Order Receipt) : Prop where
  exclusive : state.inside ≤ 1
  tokens : state.ipc.empty + state.ipc.full + state.slotsHeld +
    state.tasksHeld = K
  counted : state.ipc.shm.priority.count + state.ipc.shm.normal.count =
    (state.ipc.full + state.unposted + state.unserved : Nat)
  bounded : state.ipc.shm.priority.count + state.ipc.shm.normal.count ≤ K
  indexed : ∀ name, (state.ipc.shm.ring name).WellIndexed
  insertsFree : ∀ (index left : Nat) (order : Order),
    state.producers[index]? = some (.inserting left order) →
    ¬ (state.ipc.shm.ring order.name).Occupied
      (state.ipc.shm.ring order.name).tail
  agesFree : ∀ index : Nat, state.managers[index]? = some .aging →
    0 < state.ipc.shm.normal.count →
    ¬ state.ipc.shm.priority.Occupied state.ipc.shm.priority.tail
  removesOccupied : ∀ index : Nat,
    state.consumers[index]? = some .removing →
    (state.ipc.shm.ring state.ipc.shm.chosen).Occupied
      (state.ipc.shm.ring state.ipc.shm.chosen).head

section Books

variable {state : State SharedMemory Order Receipt} {queues : Queues}

/-- The books of this stage. -/
abbrev Keeps (state : State SharedMemory Order Receipt) (queues : Queues) :
    Prop :=
  state.Keeps K twoQueues Represents queues

theorem Queues.length_le (queues : Queues) (name : QueueName) :
    (queues.list name).length ≤ twoQueues.size queues := by
  cases name
  · exact Nat.le_add_right _ _
  · exact Nat.le_add_left _ _

theorem Keeps.chosen_occupied (keeps : Keeps state queues)
    (nonempty : 0 < twoQueues.size queues) :
    (state.ipc.shm.ring state.ipc.shm.chosen).Occupied
      (state.ipc.shm.ring state.ipc.shm.chosen).head := by
  have rings := keeps.represented
  obtain ⟨priority, normal⟩ := queues
  cases priority with
  | cons task rest =>
      have positive := rings.priority.count_pos_iff.mpr (by simp)
      simp only [SharedMemory.chosen, positive, if_true]
      exact rings.priority.head_occupied
  | nil =>
      have skipped : ¬ 0 < state.ipc.shm.priority.count := by
        simp [rings.priority.count_pos_iff]
      simp only [SharedMemory.chosen, skipped, if_false]
      cases normal with
      | nil => simp [twoQueues] at nonempty
      | cons task rest => exact rings.normal.head_occupied

theorem Keeps.safe (keeps : Keeps state queues) : Safe state where
  exclusive := by
    have sum := keeps.accounted.mutex
    omega
  tokens := keeps.accounted.tokens
  counted := by
    rw [keeps.represented.priority.counted, keeps.represented.normal.counted,
      ← keeps.stored]
    rfl
  bounded := by
    rw [keeps.represented.priority.counted, keeps.represented.normal.counted]
    exact_mod_cast keeps.size_le
  indexed name := (keeps.represented.ring name).wellIndexed
  insertsFree index left order found := by
    have room := keeps.room found
    have bound := queues.length_le order.name
    exact (keeps.represented.ring order.name).tail_free (by omega)
  agesFree index found positive := by
    have rings := keeps.represented
    have total := keeps.size_le
    have moved := List.length_pos_iff_ne_nil.mpr
      (rings.normal.count_pos_iff.mp positive)
    apply rings.priority.tail_free
    simp only [twoQueues] at total
    omega
  removesOccupied index found := keeps.chosen_occupied (keeps.waiting found)

end Books

section Runs

variable {managed : Bool} {trace : List (Event Order Receipt)}
  {state : State SharedMemory Order Receipt}

theorem run_keeps
    (run : (system (program managed)).Run (initial (program managed))
      trace state) :
    ∃ queues, twoQueues.acceptor.accept twoQueues.empty trace = some queues ∧
      Keeps state queues :=
  run_refines (program_implements managed) run
    (initial_keeps (program_implements managed))

/-- Stages two and three keep accounts, indices and slots in order in every
reachable state. -/
theorem run_safe
    (run : (system (program managed)).Run (initial (program managed))
      trace state) : Safe state := by
  obtain ⟨queues, _, keeps⟩ := run_keeps run
  exact keeps.safe

end Runs

/-- A producer, a consumer and a manager each about to enter or inside. -/
def exampleSchedule : List (Action Seed) :=
  [.startProducer 15, .startConsumer, .startManager, .startProducer 15] ++
    List.replicate 6 (.producer 0 ⟨fun index => index, 50⟩) ++
    List.replicate 3 (.producer 1 ⟨fun index => index, 10⟩) ++
    [.consumer 0]

theorem run_safe_example :
    Safe (((system (program true)).execute (fun _ _ => True)
      (initial (program true)) exampleSchedule).get (by decide)).1 :=
  run_safe (Machine.execute_get_runWithin _)

/-- Everything produced has been consumed, and everybody waits or is done. -/
structure Finished (state : State SharedMemory Order Receipt) : Prop where
  producers : ∀ producer ∈ state.producers, producer = .creating 0
  consumers : ∀ consumer ∈ state.consumers, consumer = .waitFull
  full : state.ipc.full = 0
  empty : state.ipc.empty = K
  mutex : state.ipc.mutex = 1
  rings : ∀ name, (state.ipc.shm.ring name).Holds []

theorem run_noneEnded {managed : Bool} {trace : List (Event Order Receipt)}
    {state : State SharedMemory Order Receipt}
    (run : (system (program managed)).Run (initial (program managed))
      trace state) :
    ∀ consumer ∈ state.consumers, consumer ≠ .ended := by
  refine run.invariant
    (fun reached => ∀ consumer ∈ reached.consumers, consumer ≠ .ended) ?_ ?_
  · simp [initial]
  · intro reached action next events noneEnded _ taken
    exact (step_move taken).noneEnded noneEnded

/-- The only state with a consumer in which no producer and no consumer can
move, no manager being inside, is the one where all work is done. -/
theorem run_deadlockFree {managed : Bool} {trace : List (Event Order Receipt)}
    {state : State SharedMemory Order Receipt}
    (run : (system (program managed)).Run (initial (program managed))
      trace state)
    (someConsumer : state.consumers ≠ [])
    (still : state.StandsStill (program managed)) : Finished state := by
  obtain ⟨queues, _, keeps⟩ := run_keeps run
  obtain ⟨producers, consumers, full, empty, mutex, nothing⟩ :=
    still.quiescent (by decide) keeps (run_noneEnded run) someConsumer
  refine ⟨producers, consumers, full, empty, mutex, fun name => ?_⟩
  have bound := queues.length_le name
  have noTask : queues.list name = [] := by
    rw [← List.length_eq_zero_iff]
    omega
  rw [← noTask]
  exact keeps.represented.ring name

/-- One task is produced and consumed; the manager looks on in between. -/
def drainedSchedule : List (Action Seed) :=
  [.startProducer 1, .startConsumer, .startManager] ++
    List.replicate 6 (.producer 0 ⟨fun index => index, 50⟩) ++
    List.replicate 6 (.manager 0) ++ List.replicate 6 (.consumer 0)

theorem run_deadlockFree_example :
    Finished (((system (program true)).execute (fun _ _ => True)
      (initial (program true)) drainedSchedule).get (by decide)).1 := by
  refine run_deadlockFree (Machine.execute_get_runWithin _)
    (List.cons_ne_nil _ _) ⟨?_, ?_, ?_⟩
  · rintro (_ | index) seed <;> rfl
  · rintro (_ | index) <;> rfl
  · intro manager present
    rw [List.mem_singleton.mp present]
    rfl

end SysOp.Lab5.Zad3
