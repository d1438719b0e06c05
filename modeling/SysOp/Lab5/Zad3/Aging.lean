import SysOp.Lab5.Sections
import SysOp.Lab5.Zad3.History

/-!
# Bounded waiting through aging

A task is followed by its place: the number of tasks ahead of it in its
queue.  In NORMAL every completed aging step brings it one place forward, and
nothing sets it back; in PRIORITY every removal does, because removals are
served from PRIORITY as long as it waits there.
-/

namespace SysOp.Lab5.Zad3

open SysOp.Foundation

/-- Where a task is, and how many tasks of its queue are ahead of it. -/
inductive Place where
  | normal (ahead : Nat)
  | priority (ahead : Nat)
  | taken
  deriving DecidableEq

/-- The place after one event, `queues` being the queues before it. -/
def Place.next (queues : Queues) (event : Event Order Receipt) :
    Place → Place
  | .normal ahead =>
      match event, ahead with
      | .aged, 0 => .priority queues.priority.length
      | .aged, ahead + 1 => .normal ahead
      | .removed receipt, ahead =>
          if receipt.queueSource = some .normal then
            match ahead with
            | 0 => .taken
            | ahead + 1 => .normal ahead
          else .normal ahead
      | _, ahead => .normal ahead
  | .priority ahead =>
      match event, ahead with
      | .removed _, 0 => .taken
      | .removed _, ahead + 1 => .priority ahead
      | _, ahead => .priority ahead
  | .taken => .taken

/-- The place after a history of the queues. -/
def Place.follow (queues : Queues) :
    List (Event Order Receipt) → Place → Place
  | [], place => place
  | event :: rest, place =>
      match twoQueues.acceptor.next queues event with
      | none => place
      | some after => follow after rest (place.next queues event)

/-- The task really is at its place. -/
def Place.Holds (queues : Queues) (task : Task) : Place → Prop
  | .normal ahead => queues.normal[ahead]? = some task
  | .priority ahead => queues.priority[ahead]? = some task
  | .taken => True

section Queues

variable {queues middle final : Queues} {event : Event Order Receipt}
  {trace : List (Event Order Receipt)} {task : Task} {place : Place}

theorem Place.follow_cons
    (first : twoQueues.acceptor.next queues event = some middle)
    (trace : List (Event Order Receipt)) (place : Place) :
    place.follow queues (event :: trace) =
      (place.next queues event).follow middle trace := by
  simp [follow, first]

@[simp]
theorem Place.follow_taken (queues : Queues)
    (trace : List (Event Order Receipt)) :
    Place.taken.follow queues trace = .taken := by
  induction trace generalizing queues with
  | nil => rfl
  | cons event rest inductionHypothesis =>
      simp only [follow]
      split
      · rfl
      · exact inductionHypothesis _

theorem Place.Holds.put (order : Order) (held : place.Holds queues task) :
    place.Holds (twoQueues.put order queues) task := by
  cases place with
  | taken => trivial
  | normal ahead | priority ahead =>
      have inQueue := List.getElem?_eq_some_iff.mp held |>.1
      simp only [Holds, twoQueues] at held ⊢
      cases order.name with
      | normal | priority =>
          first
          | exact held
          | rw [List.getElem?_append_left inQueue]
            exact held

theorem Place.Holds.promote (held : place.Holds queues task) :
    (place.next queues .aged).Holds (twoQueues.promote queues) task := by
  obtain ⟨priority, normal⟩ := queues
  cases place with
  | taken => trivial
  | priority ahead =>
      have inQueue := List.getElem?_eq_some_iff.mp held |>.1
      cases normal with
      | nil => exact held
      | cons oldest normal =>
          simp only [next, Holds, twoQueues] at held ⊢
          rw [List.getElem?_append_left inQueue]
          exact held
  | normal ahead =>
      cases normal with
      | nil => simp [Holds] at held
      | cons oldest normal =>
          cases ahead with
          | zero => simpa [next, Holds, twoQueues] using held
          | succ ahead => simpa [next, Holds, twoQueues] using held

theorem Place.Holds.take {receipt : Receipt}
    (held : place.Holds queues task)
    (took : twoQueues.take queues = some (receipt, final)) :
    (place.next queues (.removed receipt)).Holds final task := by
  cases place with
  | taken => trivial
  | normal ahead =>
      rcases take_cases took with
        ⟨_, same, fromPriority⟩ | ⟨_, _, first, fromNormal⟩
      · simpa [next, Holds, fromPriority, ← same] using held
      · cases ahead with
        | zero => simp [next, fromNormal, Holds]
        | succ ahead =>
            simp only [Holds, first, List.getElem?_cons_succ] at held
            simpa [next, fromNormal, Holds] using held
  | priority ahead =>
      rcases take_cases took with ⟨first, _⟩ | ⟨none, _⟩
      · cases ahead with
        | zero => trivial
        | succ ahead =>
            simpa [next, Holds, first] using held
      · simp [Holds, none] at held

/-- Following never loses the task. -/
theorem Place.Holds.next (held : place.Holds queues task)
    (first : twoQueues.acceptor.next queues event = some final) :
    (place.next queues event).Holds final task := by
  cases event with
  | inserted order =>
      cases first
      have kept := held.put order
      cases place <;> exact kept
  | removed receipt =>
      exact held.take ((Store.next_removed_eq_some_iff _ _ _ _).mp first)
  | aged =>
      cases first
      exact held.promote
  | managerEntered | warned | managerLeft =>
      cases first
      cases place <;> exact held

theorem Place.Holds.follow
    (accepted : twoQueues.acceptor.accept queues trace = some final)
    (held : place.Holds queues task) :
    (place.follow queues trace).Holds final task := by
  induction trace generalizing queues place with
  | nil =>
      cases accepted
      exact held
  | cons event rest inductionHypothesis =>
      simp only [Acceptor.accept_cons, Option.bind_eq_some_iff] at accepted
      obtain ⟨middle, first, later⟩ := accepted
      rw [follow_cons first]
      exact inductionHypothesis later (held.next first)

/-- The aging steps a task in NORMAL still has to wait for. -/
def Place.agingsLeft : Place → Nat
  | .normal ahead => ahead + 1
  | _ => 0

theorem Place.agingsLeft_next (queues : Queues)
    (event : Event Order Receipt) (place : Place) :
    (place.next queues event).agingsLeft ≤
      place.agingsLeft - [event].countP isAged := by
  cases place with
  | taken => exact Nat.zero_le _
  | priority ahead =>
      cases event with
      | removed receipt => cases ahead <;> exact Nat.zero_le _
      | inserted | aged | managerEntered | warned | managerLeft =>
          exact Nat.zero_le _
  | normal ahead =>
      cases event with
      | aged => cases ahead <;> simp [next, agingsLeft, isAged]
      | removed receipt =>
          simp only [next]
          split
          · cases ahead <;> simp [agingsLeft, isAged]
          · simp [agingsLeft, isAged]
      | inserted | managerEntered | warned | managerLeft =>
          simp [next, agingsLeft, isAged]

theorem Place.agingsLeft_follow
    (accepted : twoQueues.acceptor.accept queues trace = some final)
    (place : Place) :
    (place.follow queues trace).agingsLeft ≤
      place.agingsLeft - trace.countP isAged := by
  induction trace generalizing queues place with
  | nil => simp [follow]
  | cons event rest inductionHypothesis =>
      simp only [Acceptor.accept_cons, Option.bind_eq_some_iff] at accepted
      obtain ⟨middle, first, later⟩ := accepted
      have step := agingsLeft_next queues event place
      have remaining := inductionHypothesis later (place.next queues event)
      rw [follow_cons first, ← List.singleton_append, List.countP_append]
      omega

/-- In PRIORITY only removals matter: a task waits for the removals of the
tasks ahead of it, and the next one is its own. -/
theorem Place.follow_priority {ahead : Nat}
    (accepted : twoQueues.acceptor.accept queues trace = some final)
    (held : queues.priority[ahead]? = some task) :
    ((removals trace).length ≤ ahead ∧
      Place.follow queues trace (.priority ahead) =
        .priority (ahead - (removals trace).length)) ∨
    (Place.follow queues trace (.priority ahead) = .taken ∧
      ((removals trace)[ahead]?).map Receipt.taskStr = some task) := by
  induction trace generalizing queues ahead with
  | nil => exact .inl ⟨Nat.zero_le _, by simp [follow]⟩
  | cons event rest inductionHypothesis =>
      simp only [Acceptor.accept_cons, Option.bind_eq_some_iff] at accepted
      obtain ⟨middle, first, later⟩ := accepted
      have heldHere : (Place.priority ahead).Holds queues task := held
      have heldNext := heldHere.next first
      rw [follow_cons first]
      cases event with
      | removed receipt =>
          rw [Store.next_removed_eq_some_iff] at first
          cases ahead with
          | zero =>
              have own : receipt.taskStr = task := by
                rcases take_cases first with ⟨front, _⟩ | ⟨none, _⟩
                · simpa [front] using held
                · simp [none] at held
              refine .inr ⟨?_, by simp [own]⟩
              simp only [next]
              exact follow_taken middle rest
          | succ ahead =>
              simpa [next] using inductionHypothesis later heldNext
      | inserted | aged | managerEntered | warned | managerLeft =>
          simpa [next] using inductionHypothesis later heldNext

end Queues

/-- How long a task can wait from a state on, whatever the others do in the
continuation `future`: in NORMAL no longer than its place in the queue counts
completed manager sections, in PRIORITY no longer than its place, which is
less than K, counts removals. -/
structure BoundedWaiting (state : State SharedMemory Order Receipt)
    (queues : Queues) (future : List (Event Order Receipt))
    (later : State SharedMemory Order Receipt) (queuesLater : Queues) :
    Prop where
  before : Represents state.ipc.shm queues
  after : Represents later.ipc.shm queuesLater
  normal : ∀ ahead task, queues.normal[ahead]? = some task →
    ahead + 1 ≤ completedSections state future →
    Place.follow queues future (.normal ahead) = .taken ∨
    ∃ place, Place.follow queues future (.normal ahead) = .priority place ∧
      queuesLater.priority[place]? = some task
  priority : ∀ ahead task, queues.priority[ahead]? = some task →
    ahead ≤ K - 1 ∧
    (((removals future).length ≤ ahead ∧
      Place.follow queues future (.priority ahead) =
        .priority (ahead - (removals future).length)) ∨
    (Place.follow queues future (.priority ahead) = .taken ∧
      ((removals future)[ahead]?).map Receipt.taskStr = some task))

theorem run_boundedWaiting {managed : Bool}
    {past future : List (Event Order Receipt)}
    {state later : State SharedMemory Order Receipt}
    (reached : (system (program managed)).Run (initial (program managed))
      past state)
    (continued : (system (program managed)).Run state future later) :
    ∃ queues queuesLater,
      BoundedWaiting state queues future later queuesLater := by
  obtain ⟨queues, _, keeps⟩ := run_keeps reached
  obtain ⟨queuesLater, accepted, keepsLater⟩ :=
    run_refines (program_implements managed) continued keeps
  refine ⟨queues, queuesLater, keeps.represented, keepsLater.represented,
    ?_, ?_⟩
  · intro ahead task found waited
    have held : (Place.normal ahead).Holds queues task := found
    have heldLater := held.follow accepted
    have agings := Place.agingsLeft_follow accepted (.normal ahead)
    have sections := completedSections_le_agings continued
    cases place : Place.follow queues future (.normal ahead) with
    | taken => exact .inl rfl
    | priority ahead =>
        rw [place] at heldLater
        exact .inr ⟨ahead, rfl, heldLater⟩
    | normal ahead =>
        simp only [place, Place.agingsLeft] at agings
        omega
  · intro ahead task found
    refine ⟨?_, Place.follow_priority accepted found⟩
    have inQueue := List.getElem?_eq_some_iff.mp found |>.1
    have bounded : queues.priority.length ≤ K :=
      keeps.represented.priority.slots.fits
    omega

/-- Two tasks wait, one in each ring, and the manager sleeps. -/
def agingSchedule : List (Action Seed) :=
  [.startProducer 15, .startConsumer, .startManager] ++
    List.replicate 6 (.producer 0 ⟨fun index => index, 50⟩) ++
    List.replicate 6 (.producer 0 ⟨fun index => index + 1, 10⟩)

/-- The manager ages, and the consumer takes both tasks. -/
def agingContinuation : List (Action Seed) :=
  List.replicate 6 (.manager 0) ++ List.replicate 12 (.consumer 0)

theorem run_boundedWaiting_example :
    ∃ queues queuesLater,
      BoundedWaiting
        (((system (program true)).execute (fun _ _ => True)
          (initial (program true)) agingSchedule).get (by decide)).1 queues
        (((system (program true)).execute (fun _ _ => True)
          (((system (program true)).execute (fun _ _ => True)
            (initial (program true)) agingSchedule).get (by decide)).1
          agingContinuation).get (by decide)).2
        (((system (program true)).execute (fun _ _ => True)
          (((system (program true)).execute (fun _ _ => True)
            (initial (program true)) agingSchedule).get (by decide)).1
          agingContinuation).get (by decide)).1 queuesLater :=
  run_boundedWaiting (Machine.execute_get_runWithin _)
    (Machine.execute_get_runWithin _)

end SysOp.Lab5.Zad3
