import SysOp.Foundation.Ring
import SysOp.Lab5.Refinement

/-!
# Stages two and three: a PRIORITY and a NORMAL ring

Both stages have the same shared memory, producer and consumer; stage three
adds the manager.  `program managed` is stage three for `true` and stage two
for `false`.
-/

namespace SysOp.Lab5.Zad3

open SysOp.Foundation

/-- Max total capacity of the system. -/
abbrev K : Nat := 10

/-- The four fields `SharedMemory` has for each of its queues. -/
structure TaskQueue where
  queue : Vector Task K
  head : Nat
  tail : Nat
  count : Int

inductive QueueName where
  | priority
  | normal
  deriving DecidableEq

structure SharedMemory where
  priority : TaskQueue
  normal : TaskQueue

namespace TaskQueue

def zeroed : TaskQueue where
  queue := Vector.replicate K Task.zeroed
  head := 0
  tail := 0
  count := 0

def front (ring : TaskQueue) : Task := ring.queue[ring.head]?.getD default

def copyToTail (task : Task) (ring : TaskQueue) : TaskQueue :=
  { ring with queue := ring.queue.setIfInBounds ring.tail (strncpy task) }

def advanceTail (ring : TaskQueue) : TaskQueue :=
  { ring with tail := (ring.tail + 1) % K }

def countUp (ring : TaskQueue) : TaskQueue :=
  { ring with count := ring.count + 1 }

def advanceHead (ring : TaskQueue) : TaskQueue :=
  { ring with head := (ring.head + 1) % K }

def countDown (ring : TaskQueue) : TaskQueue :=
  { ring with count := ring.count - 1 }

end TaskQueue

def SharedMemory.ring (shm : SharedMemory) : QueueName → TaskQueue
  | .priority => shm.priority
  | .normal => shm.normal

def SharedMemory.update (shm : SharedMemory) (name : QueueName)
    (change : TaskQueue → TaskQueue) : SharedMemory :=
  match name with
  | .priority => { shm with priority := change shm.priority }
  | .normal => { shm with normal := change shm.normal }

/-- What one iteration of the producer draws from `rand()`. -/
structure Seed where
  keys : Nat → Nat
  roll : Nat

/-- `task_str` and `is_priority`. -/
structure Order where
  task : TaskString
  isPriority : Bool

/-- `task_str` and `queue_source`, which points nowhere before the section. -/
structure Receipt where
  taskStr : Task
  queueSource : Option QueueName
  deriving DecidableEq

/-- 30% chance for PRIORITY. -/
def create (seed : Seed) : Order where
  task := generateRandomString seed.keys
  isPriority := decide (seed.roll % 100 < 30)

def Order.name (order : Order) : QueueName :=
  if order.isPriority then .priority else .normal

/-- The critical section of `producer.c`. -/
def insert (order : Order) : List (SharedMemory → SharedMemory) :=
  [fun shm => shm.update order.name (.copyToTail order.task.toTask),
    fun shm => shm.update order.name .advanceTail,
    fun shm => shm.update order.name .countUp]

/-- One branch of the critical section of `consumer.c`. -/
def removeFrom (name : QueueName) :
    List (SharedMemory × Receipt → SharedMemory × Receipt) :=
  [fun (shm, receipt) =>
      (shm, { receipt with taskStr := strncpy (shm.ring name).front }),
    fun (shm, receipt) => (shm.update name .advanceHead, receipt),
    fun (shm, receipt) => (shm.update name .countDown, receipt),
    fun (shm, receipt) => (shm, { receipt with queueSource := some name })]

/-- Consumers always handle PRIORITY tasks first. -/
def remove (shm : SharedMemory) :
    List (SharedMemory × Receipt → SharedMemory × Receipt) :=
  if 0 < shm.priority.count then removeFrom .priority else removeFrom .normal

/-- The aging step of `manager.c`; the task is `aging_task`. -/
def age (shm : SharedMemory) :
    List (SharedMemory × Task → SharedMemory × Task) :=
  if 0 < shm.normal.count then
    [fun (shm, _) => (shm, strncpy shm.normal.front),
      fun (shm, task) => (shm.update .normal .advanceHead, task),
      fun (shm, task) => (shm.update .normal .countDown, task),
      fun (shm, task) => (shm.update .priority (.copyToTail task), task),
      fun (shm, task) => (shm.update .priority .advanceTail, task),
      fun (shm, task) => (shm.update .priority .countUp, task)]
  else []

def managerProgram : ManagerProgram SharedMemory where
  age := age
  total shm := shm.priority.count + shm.normal.count

def program (managed : Bool) :
    Program SharedMemory Seed Order Receipt where
  capacity := K
  zeroed := { priority := .zeroed, normal := .zeroed }
  create := create
  insert := insert
  locals := { taskStr := Task.zeroed, queueSource := none }
  remove := remove
  manager := if managed then some managerProgram else none

/-- The tasks waiting in the two rings, oldest first. -/
structure Queues where
  priority : List Task
  normal : List Task

def Queues.list (queues : Queues) : QueueName → List Task
  | .priority => queues.priority
  | .normal => queues.normal

def Queues.all (queues : Queues) : List Task :=
  queues.priority ++ queues.normal

/-- Two queues, the first of which is served first; promotion moves the
oldest NORMAL task to the end of PRIORITY. -/
def twoQueues : Store Order Receipt Queues where
  empty := { priority := [], normal := [] }
  put order queues :=
    match order.name with
    | .priority =>
        { queues with priority := queues.priority ++ [order.task.toTask] }
    | .normal =>
        { queues with normal := queues.normal ++ [order.task.toTask] }
  take
    | ⟨task :: priority, normal⟩ =>
        some (⟨task, some .priority⟩, ⟨priority, normal⟩)
    | ⟨[], task :: normal⟩ => some (⟨task, some .normal⟩, ⟨[], normal⟩)
    | ⟨[], []⟩ => none
  promote
    | ⟨priority, []⟩ => ⟨priority, []⟩
    | ⟨priority, task :: normal⟩ => ⟨priority ++ [task], normal⟩
  size queues := queues.priority.length + queues.normal.length
  size_empty := rfl
  size_put := by
    intro order queues
    cases order.name <;>
      simp only [List.length_append, List.length_singleton] <;> omega
  size_take := by
    rintro ⟨_ | ⟨task, priority⟩, _ | ⟨other, normal⟩⟩ receipt rest took <;>
      cases took <;> simp only [List.length_cons] <;> omega
  size_promote := by
    rintro ⟨priority, _ | ⟨task, normal⟩⟩
    · rfl
    · simp only [List.length_append, List.length_cons, List.length_nil]
      omega

/-- A ring holds a list of tasks, and its count is right. -/
structure TaskQueue.Holds (ring : TaskQueue) (items : List Task) : Prop where
  slots : RingHolds ring.queue ring.head ring.tail items
  counted : ring.count = items.length
  strings : ∀ task ∈ items, task.IsString

structure Represents (shm : SharedMemory) (queues : Queues) : Prop where
  priority : shm.priority.Holds queues.priority
  normal : shm.normal.Holds queues.normal

namespace TaskQueue.Holds

variable {ring : TaskQueue} {task : Task} {items : List Task}

theorem empty : TaskQueue.zeroed.Holds [] where
  slots := .empty _ (by decide)
  counted := rfl
  strings := by simp

theorem enqueue (held : ring.Holds items) (room : items.length < K)
    (written : task.IsString) :
    (ring.copyToTail task).advanceTail.countUp.Holds (items ++ [task]) where
  slots := by
    have pushed := held.slots.push room (strncpy task)
    simpa [copyToTail, advanceTail, countUp, written.strncpy] using pushed
  counted := by simp [copyToTail, advanceTail, countUp, held.counted]
  strings := by
    intro stored membership
    rcases List.mem_append.mp membership with old | new
    · exact held.strings stored old
    · rw [List.mem_singleton.mp new]
      exact written

theorem strncpy_front (held : ring.Holds (task :: items)) :
    strncpy ring.front = task := by
  rw [front, held.slots.front]
  exact (held.strings task List.mem_cons_self).strncpy

theorem dequeue (held : ring.Holds (task :: items)) :
    ring.advanceHead.countDown.Holds items where
  slots := held.slots.pop
  counted := by simp [advanceHead, countDown, held.counted]
  strings := fun stored membership =>
    held.strings stored (List.mem_cons_of_mem task membership)

theorem count_pos_iff (held : ring.Holds items) :
    0 < ring.count ↔ items ≠ [] := by
  rw [held.counted, ← List.length_pos_iff_ne_nil]
  exact Int.natCast_pos

end TaskQueue.Holds

theorem insert_represents {shm : SharedMemory} {queues : Queues}
    (order : Order) (represented : Represents shm queues)
    (room : twoQueues.size queues < K) :
    Represents (execBody (insert order) shm) (twoQueues.put order queues) := by
  have written := order.task.isString
  simp only [twoQueues] at room ⊢
  cases named : order.name with
  | priority =>
      have roomThere : queues.priority.length < K := by omega
      simp only [insert, execBody, List.foldl, named, SharedMemory.update]
      exact ⟨represented.priority.enqueue roomThere written,
        represented.normal⟩
  | normal =>
      have roomThere : queues.normal.length < K := by omega
      simp only [insert, execBody, List.foldl, named, SharedMemory.update]
      exact ⟨represented.priority,
        represented.normal.enqueue roomThere written⟩

theorem remove_represents {shm : SharedMemory} {queues : Queues}
    {locals : Receipt} (represented : Represents shm queues)
    (nonempty : 0 < twoQueues.size queues) :
    ∃ rest, twoQueues.take queues =
        some ((execBody (remove shm) (shm, locals)).2, rest) ∧
      Represents (execBody (remove shm) (shm, locals)).1 rest := by
  obtain ⟨priority, normal⟩ := queues
  cases priority with
  | cons task priority =>
      have chosen : 0 < shm.priority.count :=
        represented.priority.count_pos_iff.mpr (by simp)
      refine ⟨⟨priority, normal⟩, ?_, ?_⟩
      · simp [remove, chosen, removeFrom, execBody, twoQueues,
          SharedMemory.ring, represented.priority.strncpy_front]
      · simp only [remove, chosen, if_true, removeFrom, execBody, List.foldl,
          SharedMemory.update]
        exact ⟨represented.priority.dequeue, represented.normal⟩
  | nil =>
      have skipped : ¬ 0 < shm.priority.count := by
        simp [represented.priority.count_pos_iff]
      cases normal with
      | nil => simp [twoQueues] at nonempty
      | cons task normal =>
          refine ⟨⟨[], normal⟩, ?_, ?_⟩
          · simp [remove, skipped, removeFrom, execBody, twoQueues,
              SharedMemory.ring, represented.normal.strncpy_front]
          · simp only [remove, skipped, if_false, removeFrom, execBody,
              List.foldl, SharedMemory.update]
            exact ⟨represented.priority, represented.normal.dequeue⟩

/-- Aging needs no free slot of its own: the task it moves makes the room. -/
theorem age_represents {shm : SharedMemory} {queues : Queues} {scratch : Task}
    (represented : Represents shm queues)
    (bounded : twoQueues.size queues ≤ K) :
    Represents (execBody (age shm) (shm, scratch)).1
      (twoQueues.promote queues) := by
  obtain ⟨priority, normal⟩ := queues
  cases normal with
  | nil =>
      have nothing : ¬ 0 < shm.normal.count := by
        simp [represented.normal.count_pos_iff]
      simpa [age, nothing, execBody, twoQueues] using represented
  | cons task normal =>
      have something : 0 < shm.normal.count :=
        represented.normal.count_pos_iff.mpr (by simp)
      have room : priority.length < K := by
        simp only [twoQueues, List.length_cons] at bounded
        omega
      have written := represented.normal.strings task List.mem_cons_self
      simp only [age, something, if_true, execBody, List.foldl,
        SharedMemory.update, represented.normal.strncpy_front]
      exact ⟨represented.priority.enqueue room written,
        represented.normal.dequeue⟩

theorem program_implements (managed : Bool) :
    (program managed).Implements twoQueues Represents where
  zeroed := ⟨.empty, .empty⟩
  insert order represented room := insert_represents order represented room
  remove represented nonempty := remove_represents represented nonempty
  age := by
    intro manager shm queues chosen represented bounded
    cases managed with
    | false => simp [program] at chosen
    | true =>
        cases chosen
        exact age_represents represented bounded

end SysOp.Lab5.Zad3
