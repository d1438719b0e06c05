import Mathlib.Algebra.BigOperators.Group.List.Basic
import Mathlib.Algebra.GroupWithZero.Nat
import Mathlib.Algebra.Order.BigOperators.Group.List
import Mathlib.Algebra.Order.Group.Nat
import Mathlib.Logic.Function.Basic

/-!
# Populations of processes

A process is known by its position in a growing list; it never leaves the
list, and a step replaces the entry at one position together with what all
processes share.  A conservation law for one process therefore becomes one
for the whole population.
-/

namespace SysOp.Foundation

universe u v w

/-- Let the process at one position move; the move may be disabled. -/
def moveAt {Process : Type u} {Shared : Type v} {Event : Type w}
    (processes : List Process) (index : Nat)
    (move : Process → Option (Shared × Process × List Event)) :
    Option (Shared × List Process × List Event) :=
  match processes[index]? with
  | none => none
  | some process =>
      (move process).map fun (shared, after, events) =>
        (shared, processes.set index after, events)

theorem moveAt_eq_some_iff {Process : Type u} {Shared : Type v}
    {Event : Type w} {processes next : List Process} {index : Nat}
    {move : Process → Option (Shared × Process × List Event)}
    {shared : Shared} {events : List Event} :
    moveAt processes index move = some (shared, next, events) ↔
      ∃ process after, processes[index]? = some process ∧
        move process = some (shared, after, events) ∧
        next = processes.set index after := by
  unfold moveAt
  cases found : processes[index]? with
  | none => simp
  | some process =>
      simp only [Option.map_eq_some_iff, Prod.exists, Prod.mk.injEq,
        Option.some.injEq]
      constructor
      · rintro ⟨_, after, _, moved, rfl, rfl, rfl⟩
        exact ⟨process, after, rfl, moved, rfl⟩
      · rintro ⟨_, after, rfl, moved, rfl⟩
        exact ⟨shared, after, events, moved, rfl, rfl, rfl⟩

theorem moveAt_eq_none {Process : Type u} {Shared : Type v} {Event : Type w}
    {processes : List Process} {index : Nat} {process : Process}
    {move : Process → Option (Shared × Process × List Event)}
    (found : processes[index]? = some process)
    (stuck : moveAt processes index move = none) : move process = none := by
  simpa [moveAt, found] using stuck

/-- Who is found after a move: the process that moved, or one that did not. -/
theorem getElem?_set_cases {Process : Type u} {processes : List Process}
    {process after : Process} {index other : Nat}
    (found : (processes.set index after)[other]? = some process) :
    (other = index ∧ process = after) ∨
      (other ≠ index ∧ processes[other]? = some process) := by
  by_cases same : index = other
  · subst same
    obtain ⟨inside, _⟩ := List.getElem?_eq_some_iff.mp found
    rw [List.getElem?_set_self (by simpa using inside)] at found
    cases found
    exact .inl ⟨rfl, rfl⟩
  · rw [List.getElem?_set_ne same] at found
    exact .inr ⟨Ne.symm same, found⟩

/-- Who is found after a start: a process that was there, or the new one. -/
theorem getElem?_append_cases {Process : Type u} {processes : List Process}
    {process new : Process} {other : Nat}
    (found : (processes ++ [new])[other]? = some process) :
    processes[other]? = some process ∨
      (other = processes.length ∧ process = new) := by
  rcases Nat.lt_trichotomy other processes.length with old | last | beyond
  · rw [List.getElem?_append_left old] at found
    exact .inl found
  · subst last
    simp only [List.getElem?_concat_length, Option.some.injEq] at found
    exact .inr ⟨rfl, found.symm⟩
  · have outside : (processes ++ [new]).length ≤ other := by
      rw [List.length_append]
      exact beyond
    rw [List.getElem?_eq_none outside] at found
    cases found

/-- A process that had a property is still there after a move that keeps the
property of the one that moves. -/
theorem exists_mem_set {Process : Type u} {processes : List Process}
    {process after : Process} {index : Nat} {holds : Process → Prop}
    (found : processes[index]? = some process)
    (kept : holds process → holds after)
    (some : ∃ other ∈ processes, holds other) :
    ∃ other ∈ processes.set index after, holds other := by
  obtain ⟨other, member, held⟩ := some
  obtain ⟨position, there⟩ := List.getElem?_of_mem member
  obtain ⟨inside, _⟩ := List.getElem?_eq_some_iff.mp found
  by_cases same : index = position
  · subst same
    rw [found] at there
    cases there
    exact ⟨after, List.mem_of_getElem? (List.getElem?_set_self inside),
      kept held⟩
  · rw [← List.getElem?_set_ne same] at there
    exact ⟨other, List.mem_of_getElem? there, held⟩

/-- One process set apart from the rest. -/
theorem any_set {Process : Type u} {processes : List Process}
    {process : Process} {index : Nat}
    (found : processes[index]? = some process) (holds : Process → Bool)
    (after : Process) :
    (processes.set index after).any holds =
      (holds after || (processes.eraseIdx index).any holds) := by
  induction processes generalizing index with
  | nil => simp at found
  | cons head rest inductionHypothesis =>
      cases index with
      | zero => simp
      | succ index =>
          have apart := inductionHypothesis (by simpa using found)
          simp only [List.set_cons_succ, List.any_cons, apart,
            List.eraseIdx_cons_succ, Bool.or_left_comm]

theorem any_eq {Process : Type u} {processes : List Process}
    {process : Process} {index : Nat}
    (found : processes[index]? = some process) (holds : Process → Bool) :
    processes.any holds =
      (holds process || (processes.eraseIdx index).any holds) := by
  obtain ⟨inside, rfl⟩ := List.getElem?_eq_some_iff.mp found
  rw [← any_set found holds, List.set_getElem_self]

/-- A move that keeps what `key` reads off a process keeps it everywhere. -/
theorem map_set_of_eq {Process : Type u} {Key : Type v} (key : Process → Key)
    {processes : List Process} {process after : Process} {index : Nat}
    (found : processes[index]? = some process)
    (same : key after = key process) :
    (processes.set index after).map key = processes.map key := by
  apply List.ext_getElem?
  intro other
  by_cases moved : index = other
  · subst moved
    obtain ⟨inside, _⟩ := List.getElem?_eq_some_iff.mp found
    rw [List.getElem?_map, List.getElem?_map, found,
      List.getElem?_set_self inside, Option.map_some, Option.map_some, same]
  · simp [List.getElem?_set_ne moved]

/-- The total weight of all processes. -/
def census {Process : Type u} (weight : Process → Nat)
    (processes : List Process) : Nat :=
  (processes.map weight).sum

section

variable {Process : Type u} {weight other : Process → Nat}
  {processes : List Process} {process after : Process} {index : Nat}

@[simp]
theorem census_nil (weight : Process → Nat) : census weight [] = 0 := rfl

@[simp]
theorem census_append_singleton (weight : Process → Nat)
    (processes : List Process) (process : Process) :
    census weight (processes ++ [process]) =
      census weight processes + weight process := by
  simp [census]

theorem census_set (weight : Process → Nat)
    (found : processes[index]? = some process) (after : Process) :
    census weight (processes.set index after) + weight process =
      census weight processes + weight after := by
  induction processes generalizing index with
  | nil => simp at found
  | cons head rest inductionHypothesis =>
      cases index with
      | zero =>
          simp only [List.getElem?_cons_zero, Option.some.injEq] at found
          subst head
          simp only [census, List.set_cons_zero, List.map_cons, List.sum_cons]
          omega
      | succ index =>
          have conserved := inductionHypothesis (by simpa using found)
          simp only [census, List.set_cons_succ, List.map_cons,
            List.sum_cons] at conserved ⊢
          omega

theorem le_census (weight : Process → Nat)
    (found : processes[index]? = some process) :
    weight process ≤ census weight processes :=
  List.le_sum_of_mem (List.mem_map.mpr
    ⟨process, List.mem_of_getElem? found, rfl⟩)

/-- Two processes are counted separately. -/
theorem add_le_census (weight : Process → Nat) {first second : Process}
    {position : Nat} (found : processes[index]? = some first)
    (foundOther : processes[position]? = some second)
    (different : index ≠ position) :
    weight first + weight second ≤ census weight processes := by
  induction processes generalizing index position with
  | nil => simp at found
  | cons head rest inductionHypothesis =>
      have total : census weight (head :: rest) =
          weight head + census weight rest := rfl
      rw [total]
      cases index with
      | zero =>
          cases position with
          | zero => exact absurd rfl different
          | succ position =>
              cases found
              apply Nat.add_le_add_left
              apply le_census weight
              simpa using foundOther
      | succ index =>
          cases position with
          | zero =>
              cases foundOther
              rw [Nat.add_comm]
              apply Nat.add_le_add_left
              apply le_census weight
              simpa using found
          | succ position =>
              have both := inductionHypothesis (by simpa using found)
                (by simpa using foundOther) (by simpa using different)
              exact both.trans (Nat.le_add_left _ _)

theorem census_le_census (bounded : ∀ process, weight process ≤ other process)
    (processes : List Process) :
    census weight processes ≤ census other processes :=
  List.sum_le_sum fun process _ => bounded process

theorem census_congr
    (same : ∀ process ∈ processes, weight process = other process) :
    census weight processes = census other processes :=
  congrArg List.sum (List.map_congr_left same)

theorem census_erase [DecidableEq Process] (weight : Process → Nat)
    (present : process ∈ processes) :
    census weight processes =
      weight process + census weight (processes.erase process) :=
  ((List.perm_cons_erase present).map weight).sum_eq

/-- One process of a list without repetitions has a new value. -/
theorem census_update [DecidableEq Process] {Value : Type v}
    (point : Process → Value) (weight : Value → Nat)
    (distinct : processes.Nodup) (present : process ∈ processes)
    (value : Value) :
    census (fun other => weight (Function.update point process value other))
        processes + weight (point process) =
      census (fun other => weight (point other)) processes + weight value := by
  have rest : census
      (fun other => weight (Function.update point process value other))
      (processes.erase process) =
      census (fun other => weight (point other))
        (processes.erase process) := by
    apply census_congr
    intro other member
    have different := (distinct.mem_erase_iff.mp member).1
    rw [Function.update_of_ne different]
  rw [census_erase _ present, census_erase _ present, rest,
    Function.update_self]
  omega

theorem census_eq_zero_iff :
    census weight processes = 0 ↔ ∀ process ∈ processes, weight process = 0 := by
  simp [census, List.sum_eq_zero_iff]

/-- One process has something more to show. -/
theorem flatMap_set_perm {Item : Type v} {items : Process → List Item}
    {gained : List Item} (found : processes[index]? = some process)
    (more : items after = items process ++ gained) :
    ((processes.set index after).flatMap items).Perm
      (processes.flatMap items ++ gained) := by
  induction processes generalizing index with
  | nil => cases found
  | cons head rest inductionHypothesis =>
      cases index with
      | zero =>
          cases found
          rw [List.set_cons_zero, List.flatMap_cons, List.flatMap_cons, more,
            List.append_assoc, List.append_assoc]
          exact List.perm_append_comm.append_left _
      | succ index =>
          rw [List.set_cons_succ, List.flatMap_cons, List.flatMap_cons,
            List.append_assoc]
          exact (inductionHypothesis found).append_left _

end

end SysOp.Foundation
