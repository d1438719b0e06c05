import SysOp.Foundation.Machine
import SysOp.Foundation.Population

/-!
# Bounded queues that drop their oldest item

A push never waits: a full queue makes room by dropping its oldest item.  A
pop of an empty queue waits or gives up, as its caller says.

Items leave in the order they came, one way or the other, so what was pushed
is what has left followed by what is held.
-/

namespace SysOp.Foundation

universe u

/-- `target` is what the variable for the popped item holds before the
call. -/
inductive QueueCall (Item : Type u) where
  | push (item : Item)
  | pop (waits : Bool) (target : Item)

/-- A push reports what it has dropped, a pop whether it has popped an item
and what its variable holds then. -/
inductive QueueReturn (Item : Type u) where
  | pushed (item : Item) (dropped : Option Item)
  | popped (result : Bool) (target : Item)

/-- A queue of this capacity, oldest item first. -/
def boundedQueue (Item : Type u) (capacity : Nat) :
    Machine (List Item) (QueueCall Item) (QueueReturn Item) where
  start := []
  step
    | queue, .push item =>
        if queue.length = capacity then
          some (queue.tail ++ [item], [.pushed item queue.head?])
        else
          some (queue ++ [item], [.pushed item none])
    | item :: rest, .pop _ _ => some (rest, [.popped true item])
    | [], .pop false target => some ([], [.popped false target])
    | [], .pop true _ => none

inductive Departure (Item : Type u) where
  | popped (item : Item)
  | dropped (item : Item)

def Departure.item {Item : Type u} : Departure Item → Item
  | .popped item | .dropped item => item

def Departure.popped? {Item : Type u} : Departure Item → Option Item
  | .popped item => some item
  | .dropped _ => none

def Departure.dropped? {Item : Type u} : Departure Item → Option Item
  | .popped _ => none
  | .dropped item => some item

/-- What a call takes out of the queue. -/
def QueueReturn.departure {Item : Type u} :
    QueueReturn Item → Option (Departure Item)
  | .pushed _ dropped => dropped.map .dropped
  | .popped result item => if result then some (.popped item) else none

namespace BoundedQueue

section Histories

variable {Item : Type u}

/-- The items pushed, in order. -/
def pushes (trace : List (QueueReturn Item)) : List Item :=
  trace.filterMap fun
    | .pushed item _ => some item
    | .popped _ _ => none

/-- The items that have left, in order. -/
def departures (trace : List (QueueReturn Item)) : List (Departure Item) :=
  trace.filterMap QueueReturn.departure

/-- The items popped, in order. -/
def pops (trace : List (QueueReturn Item)) : List Item :=
  (departures trace).filterMap Departure.popped?

/-- The items dropped, in order. -/
def drops (trace : List (QueueReturn Item)) : List Item :=
  (departures trace).filterMap Departure.dropped?

theorem popped_sublist (left : List (Departure Item)) :
    List.Sublist (left.filterMap Departure.popped?)
      (left.map Departure.item) := by
  induction left with
  | nil => exact List.Sublist.slnil
  | cons departure rest inductionHypothesis =>
      cases departure with
      | popped item => exact inductionHypothesis.cons_cons item
      | dropped item => exact inductionHypothesis.cons item

theorem length_eq_popped_add_dropped (left : List (Departure Item)) :
    left.length = (left.filterMap Departure.popped?).length +
      (left.filterMap Departure.dropped?).length := by
  induction left with
  | nil => rfl
  | cons departure rest inductionHypothesis =>
      cases departure <;>
        simp [List.filterMap_cons, Departure.popped?, Departure.dropped?,
          inductionHypothesis] <;>
        omega

variable (earlier later : List (QueueReturn Item))

@[simp]
theorem pushes_append :
    pushes (earlier ++ later) = pushes earlier ++ pushes later :=
  List.filterMap_append

theorem departures_append_singleton (returned : QueueReturn Item) :
    departures (earlier ++ [returned]) =
      departures earlier ++ returned.departure.toList := by
  cases left : returned.departure <;> simp [departures, left]

end Histories

section Runs

variable {Item : Type u} {capacity : Nat} {trace : List (QueueReturn Item)}
  {queue : List Item}

/-- What a history says about the queue it has led to. -/
structure Kept (capacity : Nat) (trace : List (QueueReturn Item))
    (queue : List Item) : Prop where
  bounded : queue.length ≤ capacity
  ordered : pushes trace = (departures trace).map Departure.item ++ queue
  missing : ∀ (position : Nat) (item : Item),
    (departures trace)[position]? = some (.dropped item) →
    ∃ earlier newest later,
      trace = earlier ++ .pushed newest (some item) :: later ∧
      (departures earlier).length = position ∧
      (pushes earlier).length + 1 = position + 1 + capacity

/-- One call keeps the history if the queue changes by what was pushed and
what has left, and drops only where it is full. -/
theorem Kept.extend {returned : QueueReturn Item} {next : List Item}
    (kept : Kept capacity trace queue) (bounded : next.length ≤ capacity)
    (ordered : queue ++ pushes [returned] =
      returned.departure.toList.map Departure.item ++ next)
    (full : ∀ item, returned.departure = some (.dropped item) →
      queue.length = capacity ∧
        ∃ newest, returned = .pushed newest (some item)) :
    Kept capacity (trace ++ [returned]) next where
  bounded := bounded
  ordered := by
    rw [pushes_append, departures_append_singleton, kept.ordered,
      List.append_assoc, ordered, List.map_append, List.append_assoc]
  missing position item found := by
    rw [departures_append_singleton] at found
    have old : (departures trace)[position]? = some (.dropped item) →
        ∃ earlier newest later,
          trace ++ [returned] = earlier ++ .pushed newest (some item) :: later ∧
          (departures earlier).length = position ∧
          (pushes earlier).length + 1 = position + 1 + capacity := by
      intro before
      obtain ⟨earlier, newest, later, rfl, left, pushed⟩ :=
        kept.missing position item before
      exact ⟨earlier, newest, later ++ [returned], by simp, left, pushed⟩
    cases left : returned.departure with
    | none =>
        rw [left, Option.toList_none, List.append_nil] at found
        exact old found
    | some departure =>
        rw [left, Option.toList_some] at found
        rcases getElem?_append_cases found with before | ⟨rfl, rfl⟩
        · exact old before
        · obtain ⟨isFull, newest, rfl⟩ := full item left
          refine ⟨trace, newest, [], rfl, rfl, ?_⟩
          rw [kept.ordered, List.length_append, List.length_map, isFull]
          omega

theorem step_kept (positive : 0 < capacity) {call : QueueCall Item}
    {next : List Item} {events : List (QueueReturn Item)}
    (kept : Kept capacity trace queue)
    (taken : (boundedQueue Item capacity).step queue call =
      some (next, events)) :
    Kept capacity (trace ++ events) next := by
  have bounded := kept.bounded
  cases call with
  | push item =>
      simp only [boundedQueue] at taken
      split at taken
      case isTrue isFull =>
        cases taken
        cases queue with
        | nil => exact absurd positive (Nat.not_lt.mpr (Nat.le_of_eq isFull.symm))
        | cons oldest rest =>
            apply kept.extend
            · simpa using bounded
            · rfl
            · intro victim left
              cases left
              exact ⟨isFull, item, rfl⟩
      case isFalse notFull =>
        cases taken
        apply kept.extend
        · rw [List.length_append, List.length_singleton]
          omega
        · rfl
        · intro victim left
          cases left
  | pop waits target =>
      cases queue with
      | cons item rest =>
          cases taken
          apply kept.extend
          · exact Nat.le_of_succ_le bounded
          · simp [pushes, QueueReturn.departure, Departure.item]
          · intro victim left
            cases left
      | nil =>
          cases waits with
          | true => cases taken
          | false =>
              cases taken
              apply kept.extend bounded
              · rfl
              · intro victim left
                cases left

theorem run_kept (positive : 0 < capacity)
    (run : (boundedQueue Item capacity).Run [] trace queue) :
    Kept capacity trace queue := by
  refine run.history (Kept capacity) ⟨Nat.zero_le _, rfl, ?_⟩
    fun kept _ taken => step_kept positive kept taken
  intro position item found
  cases found

/-- The items popped and those held are among those pushed, in their
order. -/
theorem Kept.sublist (kept : Kept capacity trace queue) :
    List.Sublist (pops trace ++ queue) (pushes trace) := by
  rw [kept.ordered]
  exact (popped_sublist (departures trace)).append (List.Sublist.refl queue)

theorem Kept.counted (kept : Kept capacity trace queue) :
    (pushes trace).length =
      (pops trace).length + (drops trace).length + queue.length := by
  rw [kept.ordered, List.length_append, List.length_map,
    length_eq_popped_add_dropped]
  rfl

end Runs

end BoundedQueue

end SysOp.Foundation
