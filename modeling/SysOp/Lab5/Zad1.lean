import SysOp.Foundation.Ring
import SysOp.Lab5.Refinement

/-!
# Stage one: a ring without an element count

The shared memory of stage one has two indices and nothing else, so it
cannot tell an empty ring from a full one.  The memory therefore only
*represents* a list of tasks; which list is known from the history.
-/

namespace SysOp.Lab5.Zad1

open SysOp.Foundation

/-- Buffer size. -/
abbrev K : Nat := 5

structure SharedMemory where
  buffer : Vector Task K
  head : Nat
  tail : Nat

/-- The critical section of `producer.c`. -/
def insert (task : TaskString) : List (SharedMemory → SharedMemory) :=
  [fun shm => { shm with
      buffer := shm.buffer.setIfInBounds shm.tail (strncpy task.toTask) },
    fun shm => { shm with tail := (shm.tail + 1) % K }]

/-- The critical section of `consumer.c`; the task is `task_str`. -/
def remove (_ : SharedMemory) :
    List (SharedMemory × Task → SharedMemory × Task) :=
  [fun (shm, _) => (shm, strncpy (shm.buffer[shm.head]?.getD default)),
    fun (shm, taskStr) => ({ shm with head := (shm.head + 1) % K }, taskStr)]

def program : Program SharedMemory (Nat → Nat) TaskString Task where
  capacity := K
  zeroed := { buffer := Vector.replicate K Task.zeroed, head := 0, tail := 0 }
  create := generateRandomString
  insert := insert
  locals := Task.zeroed
  remove := remove
  manager := none

/-- A first-in first-out queue. -/
def fifo : Store TaskString Task (List Task) where
  empty := []
  put task waiting := waiting ++ [task.toTask]
  take
    | [] => none
    | task :: rest => some (task, rest)
  promote waiting := waiting
  size := List.length
  size_empty := rfl
  size_put := by simp
  size_take := by
    intro waiting task rest took
    cases waiting with
    | nil => simp at took
    | cons head others =>
        cases took
        rfl
  size_promote := fun _ => rfl

/-- The queue's history: what was inserted is what was removed, followed by
what is still waiting. -/
theorem fifo_history {waiting final : List Task}
    {trace : List (Event TaskString Task)}
    (accepted : fifo.acceptor.accept waiting trace = some final) :
    waiting ++ (insertions trace).map TaskString.toTask =
      removals trace ++ final := by
  induction trace generalizing waiting with
  | nil =>
      cases accepted
      simp
  | cons event rest inductionHypothesis =>
      simp only [Acceptor.accept_cons, Option.bind_eq_some_iff] at accepted
      obtain ⟨middle, first, later⟩ := accepted
      have remaining := inductionHypothesis later
      cases event with
      | inserted task =>
          cases first
          simpa [fifo] using remaining
      | removed task =>
          simp only [Store.next_removed_eq_some_iff] at first
          cases waiting with
          | nil => simp [fifo] at first
          | cons head others =>
              cases first
              simpa using remaining
      | managerEntered | aged | warned | managerLeft =>
          cases first
          simpa [fifo] using remaining

/-- The ring holds the waiting tasks, each a string a producer wrote. -/
structure Represents (shm : SharedMemory) (waiting : List Task) : Prop where
  ring : RingHolds shm.buffer shm.head shm.tail waiting
  strings : ∀ task ∈ waiting, task.IsString

theorem program_implements : program.Implements fifo Represents where
  zeroed := ⟨.empty _ (by decide), by simp [fifo]⟩
  insert := by
    intro shm waiting task represented room
    refine ⟨?_, ?_⟩
    · have pushed := represented.ring.push room (strncpy task.toTask)
      simpa [program, insert, execBody, fifo, strncpy_taskString] using pushed
    · intro stored membership
      rcases List.mem_append.mp membership with old | new
      · exact represented.strings stored old
      · rw [List.mem_singleton.mp new]
        exact task.isString
  remove := by
    intro shm waiting represented nonempty
    cases waiting with
    | nil => simp [fifo] at nonempty
    | cons task rest =>
        have unaltered := (represented.strings task List.mem_cons_self).strncpy
        refine ⟨rest, ?_, represented.ring.pop, ?_⟩
        · simp [program, remove, execBody, fifo, represented.ring.front,
            unaltered]
        · intro stored membership
          exact represented.strings stored (List.mem_cons_of_mem _ membership)
  age := by
    intro manager shm waiting managed
    simp [program] at managed

/-- The ring can be trusted although it keeps no count: the tasks taken are a
prefix of those inserted, the others lie in order from `head` on, and the
slots a producer is about to write and a consumer is about to read are a free
and an occupied one. -/
structure RingTrusted (trace : List (Event TaskString Task))
    (state : State SharedMemory TaskString Task) (waiting : List Task) :
    Prop where
  history : (insertions trace).map TaskString.toTask =
    removals trace ++ waiting
  bounded : waiting.length ≤ K
  slots : ∀ position, position < waiting.length →
    state.ipc.shm.buffer[(state.ipc.shm.head + position) % K]? =
      waiting[position]?
  next : state.ipc.shm.head < K ∧
    state.ipc.shm.tail = (state.ipc.shm.head + waiting.length) % K
  writesFree : ∀ (index left : Nat) (task : TaskString),
    state.producers[index]? = some (.inserting left task) →
    waiting.length < K ∧ ∀ position, position < waiting.length →
      (state.ipc.shm.head + position) % K ≠ state.ipc.shm.tail
  readsOccupied : ∀ index : Nat,
    state.consumers[index]? = some .removing → 0 < waiting.length

theorem ring_trusted {trace : List (Event TaskString Task)}
    {state : State SharedMemory TaskString Task}
    (run : (system program).Run (initial program) trace state) :
    ∃ waiting, RingTrusted trace state waiting := by
  obtain ⟨waiting, accepted, keeps⟩ :=
    run_refines program_implements run (initial_keeps program_implements)
  have ring := keeps.represented.ring
  refine ⟨waiting, ?_, ring.fits, fun _ => ring.slot,
    ⟨ring.head_lt, ring.tail_eq⟩, ?_, fun _ => keeps.waiting⟩
  · simpa [fifo] using fifo_history accepted
  · intro index left task found
    have room : waiting.length < K := keeps.room found
    exact ⟨room, fun _ => ring.tail_free room⟩

/-- Two producers insert a task each, and a consumer takes the first. -/
def exampleSchedule : List (Action (Nat → Nat)) :=
  [.startProducer 10, .startConsumer, .startProducer 10] ++
    List.replicate 6 (.producer 0 fun index => index) ++
    List.replicate 5 (.producer 1 fun index => index + 7) ++
    List.replicate 4 (.consumer 0)

theorem ring_trusted_example :
    ∃ waiting, RingTrusted
      (((system program).execute (fun _ _ => True) (initial program)
        exampleSchedule).get (by decide)).2
      (((system program).execute (fun _ _ => True) (initial program)
        exampleSchedule).get (by decide)).1 waiting :=
  ring_trusted (Machine.execute_get_runWithin _)

end SysOp.Lab5.Zad1
