import Mathlib.Logic.Basic

/-!
# Mutexes and critical sections

A mutex names its owner.  It guards a critical section when the threads inside
are exactly its owner; three rules keep it so, one for each kind of step.
-/

namespace SysOp.Foundation

universe u

variable {Thread : Type u}

/-- The owner of a mutex, if there is one. -/
abbrev Mutex (Thread : Type u) := Option Thread

def Mutex.Guards (mutex : Mutex Thread) (inside : Thread → Prop) : Prop :=
  ∀ thread, mutex = some thread ↔ inside thread

namespace Mutex

variable {mutex : Mutex Thread} {inside after : Thread → Prop}
  {thread other : Thread}

theorem Guards.exclusive (guards : mutex.Guards inside) (first : inside thread)
    (second : inside other) : thread = other :=
  Option.some.inj
    (((guards thread).mpr first).symm.trans ((guards other).mpr second))

theorem Guards.keep (guards : mutex.Guards inside)
    (kept : ∀ other, after other ↔ inside other) : mutex.Guards after := by
  intro other
  rw [kept]
  exact guards other

theorem Guards.lock {mutex : Mutex Thread} (guards : mutex.Guards inside)
    (free : mutex = none)
    (entered : ∀ other, after other ↔ other = thread ∨ inside other) :
    Guards (some thread) after := by
  intro other
  rw [entered, ← guards other, free, Option.some.injEq, eq_comm]
  constructor
  · exact .inl
  · rintro (same | owned)
    · exact same
    · cases owned

theorem Guards.unlock (guards : mutex.Guards inside) (here : inside thread)
    (left : ∀ other, after other ↔ other ≠ thread ∧ inside other) :
    Guards none after := by
  intro other
  rw [left]
  constructor
  · intro owned
    cases owned
  · rintro ⟨different, there⟩
    exact absurd (guards.exclusive there here) different

end Mutex

end SysOp.Foundation
