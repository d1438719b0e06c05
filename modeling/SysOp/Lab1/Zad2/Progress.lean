import SysOp.Foundation.Inevitable
import SysOp.Lab1.Zad2.Family
import Mathlib.Data.Finset.Max

/-!
# Every run of `zad2` comes to an end

What a process can still do includes what the children it can still fork can
do, so each step leaves less to do.  As long as anybody has not ended, one of
the youngest generation that has not can move.
-/

namespace SysOp.Lab1.Zad2

open SysOp.Foundation

def Point.ended : Point → Bool
  | .exited | .reaped => true
  | _ => false

def State.Ended (state : State) : Prop :=
  ∀ path ∈ state.processes, (state.point path).ended

instance (state : State) : Decidable state.Ended :=
  inferInstanceAs (Decidable (∀ path ∈ state.processes, _))

/-- The steps that may follow from the test of the loop with so many iterations
to go, including those of the children. -/
def loopWork (N : Nat) : Nat → Nat
  | 0 => N + 3
  | left + 1 => 2 * loopWork N left + 2

def Point.work (N : Nat) : Point → Nat
  | .spawning i => loopWork N (N - i)
  | .executing i => loopWork N (N - (i + 1)) + 1
  | .running | .printing => 1
  | .waiting i => N - i + 2
  | .exited | .reaped => 0

def State.work (N : Nat) (state : State) : Nat :=
  census (fun path => (state.point path).work N) state.processes

section Steps

variable {N : Nat} {succeeds : Path → Bool} {state next : State} {path : Path}
  {events : List Event}

theorem loopWork_pos (N left : Nat) : 0 < loopWork N left := by
  cases left <;> simp [loopWork]

theorem loopWork_sub {i : Nat} (more : i < N) :
    loopWork N (N - i) = 2 * loopWork N (N - (i + 1)) + 2 := by
  have one : N - i = N - (i + 1) + 1 := by omega
  rw [one, loopWork]

theorem State.work_moveTo (N : Nat) (distinct : state.processes.Nodup)
    (present : path ∈ state.processes) (point : Point) :
    (state.moveTo path point).work N + (state.point path).work N =
      state.work N + point.work N :=
  census_update state.point (Point.work N) distinct present point

theorem State.work_moveTo_lt (distinct : state.processes.Nodup)
    (present : path ∈ state.processes) {point : Point}
    (less : point.work N < (state.point path).work N) :
    (state.moveTo path point).work N < state.work N := by
  have counted := State.work_moveTo N distinct present point
  omega

theorem State.work_fork {i : Nat} (new : i :: path ∉ state.processes) :
    (state.fork path i).work N =
      (state.moveTo path (.spawning (i + 1))).work N +
        (Point.executing i).work N := by
  change census (fun other => ((state.fork path i).point other).work N)
    (state.processes ++ [i :: path]) = _
  rw [census_append_singleton, State.point_fork_child, Nat.add_right_cancel_iff]
  apply census_congr
  intro other member
  have different : other ≠ i :: path := fun same => new (same ▸ member)
  exact congrArg (Point.work N) (Function.update_of_ne different ..)

theorem Move.work (move : Move N succeeds state path next events)
    (present : path ∈ state.processes) (family : Family N succeeds state) :
    next.work N < state.work N := by
  have distinct := family.distinct
  cases move with
  | @fork i here more =>
      have moved := State.work_moveTo N distinct present (.spawning (i + 1))
      have left := loopWork_sub more
      rw [here] at moved
      rw [State.work_fork (family.notMem here)]
      simp only [Point.work] at moved ⊢
      omega
  | spawned here all =>
      apply State.work_moveTo_lt distinct present
      rw [here, Point.work, Point.work, Nat.sub_eq_zero_of_le all, loopWork]
      omega
  | execute here =>
      apply State.work_moveTo_lt distinct present
      rw [here]
      exact Nat.succ_lt_succ (loopWork_pos ..)
  | fail here =>
      apply State.work_moveTo_lt distinct present
      rw [here]
      exact Nat.lt_succ_self _
  | exit here | print here =>
      apply State.work_moveTo_lt distinct present
      rw [here]
      exact Nat.one_pos
  | nobody here more =>
      apply State.work_moveTo_lt distinct present
      rw [here, Point.work, Point.work]
      omega
  | waited here =>
      apply State.work_moveTo_lt distinct present
      rw [here, Point.work, Point.work]
      omega
  | @reap i j here more child exited =>
      have different : j :: path ≠ path := List.cons_ne_self j path
      have waited : (state.moveTo path (.waiting (i + 1))).work N <
          state.work N := by
        apply State.work_moveTo_lt distinct present
        rw [here, Point.work, Point.work]
        omega
      have still : (state.moveTo path (.waiting (i + 1))).point (j :: path) =
          .exited := (State.point_moveTo_of_ne different).trans exited
      have reaped := State.work_moveTo N
        (show (state.moveTo path (.waiting (i + 1))).processes.Nodup from
          distinct) child .reaped
      rw [still] at reaped
      exact reaped.trans_lt waited

/-- One of the youngest who have not ended. -/
theorem State.exists_youngest (going : ¬ state.Ended) :
    ∃ path ∈ state.processes, ¬ (state.point path).ended ∧
      ∀ other ∈ state.processes, ¬ (state.point other).ended →
        other.length ≤ path.length := by
  let active := (state.processes.filter fun path =>
    ¬ (state.point path).ended).toFinset
  have mem_active {path : Path} : path ∈ active ↔
      path ∈ state.processes ∧ ¬ (state.point path).ended := by
    simp [active]
  have nonempty : active.Nonempty := by
    simp only [State.Ended, not_forall] at going
    obtain ⟨path, present, goes⟩ := going
    exact ⟨path, mem_active.mpr ⟨present, goes⟩⟩
  obtain ⟨path, member, youngest⟩ :=
    Finset.exists_max_image active List.length nonempty
  obtain ⟨present, goes⟩ := mem_active.mp member
  exact ⟨path, present, goes, fun other there active =>
    youngest other (mem_active.mpr ⟨there, active⟩)⟩

/-- If its children have ended, a process finds one as long as there is one. -/
theorem State.exists_exited
    (ended : ∀ child ∈ state.children path, (state.point child).ended)
    (unreaped : ¬ state.Childless path) :
    ∃ j, j :: path ∈ state.processes ∧ state.point (j :: path) = .exited := by
  simp only [State.Childless, not_forall] at unreaped
  obtain ⟨child, member, unreaped⟩ := unreaped
  obtain ⟨there, j, rfl⟩ := State.mem_children.mp member
  refine ⟨j, there, ?_⟩
  have gone := ended _ member
  cases point : state.point (j :: path) with
  | exited => rfl
  | reaped => exact absurd point unreaped
  | _ =>
      rw [point] at gone
      cases gone

theorem State.able (going : ¬ state.Ended) :
    (zad2 N succeeds).Able (fun _ _ => True) state := by
  obtain ⟨path, present, active, youngest⟩ := state.exists_youngest going
  have ended : ∀ child ∈ state.children path, (state.point child).ended := by
    intro child member
    by_contra active
    obtain ⟨there, j, rfl⟩ := State.mem_children.mp member
    have older := youngest _ there active
    rw [List.length_cons] at older
    omega
  have process (enabled : (processStep N succeeds state path).isSome) :
      (zad2 N succeeds).Able (fun _ _ => True) state :=
    ⟨.process path, trivial, by simpa [zad2, step, present] using enabled⟩
  cases here : state.point path with
  | spawning | executing =>
      apply process
      rw [processStep, here]
      dsimp only
      split <;> rfl
  | running | printing =>
      apply process
      rw [processStep, here]
      rfl
  | exited | reaped =>
      rw [here] at active
      exact absurd rfl active
  | waiting i =>
      by_cases finished : N ≤ i ∨ state.Childless path
      · apply process
        rw [processStep, here]
        rcases finished with all | childless
        · simp [Nat.not_lt.mpr all]
        · simp only [childless, if_true]
          split <;> rfl
      · obtain ⟨more, unreaped⟩ := not_or.mp finished
        rw [Nat.not_le] at more
        obtain ⟨j, there, exited⟩ := State.exists_exited ended unreaped
        exact ⟨.wait path j, trivial,
          by simp [zad2, step, waitStep, present, here, more, there, exited]⟩

theorem initial_family : Family N succeeds initial where
  distinct := List.nodup_singleton _
  root := List.mem_singleton_self _
  child_iff := by
    intro j path
    simp only [initial, List.mem_singleton, reached]
    constructor
    · intro member
      cases member
    · rintro ⟨_, _, before⟩
      cases before
  proper := by
    intro path present
    exact ⟨.inl (List.mem_singleton.mp present), by
      rw [List.mem_singleton.mp present]; rfl, Nat.zero_le N⟩

theorem initial_gathered : Gathered N succeeds initial := by
  intro path present
  rw [List.mem_singleton.mp present]
  exact Nat.zero_le _

theorem run_family {trace : List Event} {last : State}
    {allowed : State → Action → Prop}
    (steps : (zad2 N succeeds).RunWithin allowed initial trace last) :
    Family N succeeds last ∧ Gathered N succeeds last := by
  apply steps.invariant fun state =>
    Family N succeeds state ∧ Gathered N succeeds state
  · exact ⟨initial_family, initial_gathered⟩
  · rintro state action next events ⟨family, gathered⟩ _ taken
    obtain ⟨path, present, move⟩ := step_move taken
    exact ⟨move.family present family, move.gathered present family gathered⟩

theorem inevitable_ended (N : Nat) (succeeds : Path → Bool) :
    (zad2 N succeeds).Inevitable (fun _ _ => True) State.Ended initial := by
  apply Machine.inevitable_of_measure (Family N succeeds) (State.work N)
  · intro state _ going
    exact State.able going
  · intro state action next events family _ taken
    obtain ⟨path, present, move⟩ := step_move taken
    exact ⟨move.family present family, move.work present family⟩
  · exact initial_family

end Steps

end SysOp.Lab1.Zad2
