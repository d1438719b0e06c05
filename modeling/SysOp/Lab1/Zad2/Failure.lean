import SysOp.Lab1.Zad2.Progress

/-!
# Failed calls of `execl`

As long as no `execl` fails, `main` has N children and no other descendants,
and is alone in printing its line.  A child whose `execl` fails prints it as
well, whatever else happens.
-/

namespace SysOp.Lab1.Zad2

open SysOp.Foundation

/-- The processes forked, in this order. -/
def forkedIn (trace : List Event) : List Path :=
  trace.filterMap fun
    | .forked path => some path
    | _ => none

/-- The processes that have printed `Rodzic`, in this order. -/
def printedIn (trace : List Event) : List Path :=
  trace.filterMap fun
    | .printed path => some path
    | _ => none

/-- What a run of `main` is meant to do. -/
structure Intended (N : Nat) (trace : List Event) (last : State) : Prop where
  few : (forkedIn trace).length ≤ N
  all : last.Ended → (forkedIn trace).length = N
  alone : ∀ path ∈ printedIn trace, path = []
  atMostOnce : (printedIn trace).length ≤ 1
  once : last.Ended → (printedIn trace).length = 1
  afterAll : [] ∈ printedIn trace →
    (forkedIn trace).length = N ∧
      ∀ child ∈ forkedIn trace, (last.point child).ended
  childless : ∀ path, .failed path ∈ trace → ∀ i, i :: path ∉ forkedIn trace

/-- What the trace tells about the processes. -/
structure Recorded (succeeds : Path → Bool) (past : List Event)
    (state : State) : Prop where
  forked : state.processes = [] :: forkedIn past
  distinct : (printedIn past).Nodup
  printed : ∀ path, path ∈ printedIn past ↔
    path ∈ state.processes ∧ Continues succeeds path ∧
      (state.point path).ended
  failed : ∀ path, .failed path ∈ past →
    path ∈ state.processes ∧ path ≠ [] ∧ succeeds path = false

section Moves

variable {N : Nat} {succeeds : Path → Bool} {state next : State} {path : Path}
  {past events : List Event}

theorem forkedIn_append (earlier later : List Event) :
    forkedIn (earlier ++ later) = forkedIn earlier ++ forkedIn later :=
  List.filterMap_append

theorem printedIn_append (earlier later : List Event) :
    printedIn (earlier ++ later) = printedIn earlier ++ printedIn later :=
  List.filterMap_append

/-- A move after which nobody more has ended who prints. -/
theorem Recorded.moveTo {point : Point}
    (recorded : Recorded succeeds past state)
    (same : Continues succeeds path →
      point.ended = (state.point path).ended) :
    Recorded succeeds past (state.moveTo path point) where
  forked := recorded.forked
  distinct := recorded.distinct
  printed := by
    intro other
    rw [recorded.printed other]
    apply and_congr_right
    intro _
    apply and_congr_right
    intro continues
    by_cases moved : other = path
    · subst moved
      rw [State.point_moveTo_self, same continues]
    · rw [State.point_moveTo_of_ne moved]
  failed := recorded.failed

theorem Recorded.fork {i : Nat} (recorded : Recorded succeeds past state)
    (family : Family N succeeds state)
    (here : state.point path = .spawning i) :
    Recorded succeeds (past ++ [.forked (i :: path)]) (state.fork path i) := by
  have new := family.notMem here
  have printed : printedIn (past ++ [.forked (i :: path)]) = printedIn past :=
    (printedIn_append ..).trans (List.append_nil _)
  refine ⟨?_, printed ▸ recorded.distinct, ?_, ?_⟩
  · rw [forkedIn_append, State.fork, recorded.forked]
    rfl
  · intro other
    rw [printed, recorded.printed other]
    by_cases parent : other = path
    · subst parent
      simp [State.point_fork_parent, here, Point.ended]
    · by_cases child : other = i :: path
      · subst child
        simp [State.point_fork_child, new, Point.ended]
      · rw [State.point_fork_of_ne parent child, State.mem_fork,
          or_iff_left child]
  · intro other failed
    rcases List.mem_append.mp failed with before | now
    · obtain ⟨member, rest⟩ := recorded.failed other before
      exact ⟨State.mem_fork.mpr (.inl member), rest⟩
    · simp at now

theorem Recorded.fail (recorded : Recorded succeeds past state)
    (present : path ∈ state.processes) (child : path ≠ [])
    (bad : succeeds path = false) :
    Recorded succeeds (past ++ [.failed path]) state := by
  have forked : forkedIn (past ++ [.failed path]) = forkedIn past :=
    (forkedIn_append ..).trans (List.append_nil _)
  have printed : printedIn (past ++ [.failed path]) = printedIn past :=
    (printedIn_append ..).trans (List.append_nil _)
  refine ⟨forked ▸ recorded.forked, printed ▸ recorded.distinct,
    printed ▸ recorded.printed, ?_⟩
  intro other failed
  rcases List.mem_append.mp failed with before | now
  · exact recorded.failed other before
  · cases List.mem_singleton.mp now
    exact ⟨present, child, bad⟩

theorem Recorded.print (recorded : Recorded succeeds past state)
    (present : path ∈ state.processes) (continues : Continues succeeds path)
    (here : state.point path = .printing) :
    Recorded succeeds (past ++ [.printed path]) (state.moveTo path .exited) := by
  have forked : forkedIn (past ++ [.printed path]) = forkedIn past :=
    (forkedIn_append ..).trans (List.append_nil _)
  have printed : printedIn (past ++ [.printed path]) = printedIn past ++ [path] :=
    printedIn_append ..
  have new : path ∉ printedIn past := by
    rw [recorded.printed, here]
    rintro ⟨_, _, ended⟩
    cases ended
  refine ⟨forked ▸ recorded.forked, ?_, ?_, ?_⟩
  · rw [printed, List.nodup_append]
    exact ⟨recorded.distinct, List.nodup_singleton path,
      fun old member last now same =>
        new (List.mem_singleton.mp now ▸ same ▸ member)⟩
  · intro other
    rw [printed, List.mem_append, List.mem_singleton, recorded.printed other]
    by_cases same : other = path
    · subst same
      rw [State.point_moveTo_self]
      exact ⟨fun _ => ⟨present, continues, rfl⟩, fun _ => .inr rfl⟩
    · rw [State.point_moveTo_of_ne same, or_iff_left same]
      rfl
  · intro other failed
    rcases List.mem_append.mp failed with before | now
    · exact recorded.failed other before
    · simp at now

theorem Move.recorded (move : Move N succeeds state path next events)
    (present : path ∈ state.processes) (family : Family N succeeds state)
    (recorded : Recorded succeeds past state) :
    Recorded succeeds (past ++ events) next := by
  have proper := family.proper path present
  cases move with
  | fork here => exact recorded.fork family here
  | spawned here | execute here | nobody here | waited here =>
      rw [List.append_nil]
      exact recorded.moveTo fun _ => by rw [here]; rfl
  | exit here =>
      rw [here] at proper
      rw [List.append_nil]
      exact recorded.moveTo fun continues => absurd continues proper
  | @fail i here bad =>
      rw [here] at proper
      have moved : Recorded succeeds past
          (state.moveTo path (.spawning (i + 1))) :=
        recorded.moveTo fun _ => by rw [here]; rfl
      refine moved.fail present ?_ bad
      rintro rfl
      cases proper
  | print here =>
      rw [here] at proper
      exact recorded.print present proper here
  | @reap i j here more child exited =>
      have different : j :: path ≠ path := List.cons_ne_self j path
      rw [List.append_nil]
      apply Recorded.moveTo
      · exact recorded.moveTo fun _ => by rw [here]; rfl
      · intro _
        rw [State.point_moveTo_of_ne different, exited]
        rfl

theorem initial_recorded : Recorded succeeds [] initial where
  forked := rfl
  distinct := .nil
  printed := by
    intro path
    constructor
    · nofun
    · rintro ⟨_, _, ended⟩
      cases ended
  failed := nofun

theorem run_recorded {trace : List Event} {last : State}
    (steps : (zad2 N succeeds).Run initial trace last) :
    Recorded succeeds trace last := by
  have both := steps.history
    (fun past state => Family N succeeds state ∧ Recorded succeeds past state)
    ⟨initial_family, initial_recorded⟩ ?_
  · exact both.2
  · rintro past state action next events ⟨family, recorded⟩ _ taken
    obtain ⟨path, present, move⟩ := step_move taken
    exact ⟨move.family present family, move.recorded present family recorded⟩

end Moves

section Runs

variable {N : Nat} {succeeds : Path → Bool} {trace : List Event}
  {last : State}

theorem reached_of_executes {path : Path} {point : Point}
    (proper : Proper N succeeds path point)
    (executes : ¬ Continues succeeds path) :
    reached N succeeds path point = start path := by
  cases point with
  | executing | running => rfl
  | exited | reaped => exact if_neg executes
  | spawning | waiting => exact absurd proper.1 executes
  | printing => exact absurd proper executes

theorem reached_of_ended {path : Path} {point : Point} (ended : point.ended)
    (continues : Continues succeeds path) :
    reached N succeeds path point = N := by
  cases point with
  | exited | reaped => exact if_pos continues
  | _ => cases ended

/-- Who has come to the end of `main` has waited for all its children. -/
theorem Gathered.childless (gathered : Gathered N succeeds last) {path : Path}
    (present : path ∈ last.processes) (continues : Continues succeeds path)
    (ended : (last.point path).ended) : last.Childless path := by
  have left := gathered path present
  rw [State.childless_iff, ← Nat.le_zero]
  cases here : last.point path <;> rw [here] at ended left <;>
    first | exact left.trans_eq (if_pos continues) | cases ended

theorem not_continues (good : ∀ i < N, succeeds [i]) {i : Nat}
    (inside : i < N) : ¬ Continues succeeds [i] := by
  rintro (root | bad)
  · cases root
  · rw [good i inside] at bad
    cases bad

/-- Who executes `child.out` forks nobody, so `main` has no grandchildren. -/
theorem Family.childrenOnly (family : Family N succeeds last)
    (good : ∀ i < N, succeeds [i]) {path : Path}
    (present : path ∈ last.processes) :
    path = [] ∨ ∃ i < N, path = [i] := by
  induction path with
  | nil => exact .inl rfl
  | cons j parent inductionHypothesis =>
      obtain ⟨there, after, before⟩ := family.child_iff.mp present
      rcases inductionHypothesis there with rfl | ⟨i, inside, rfl⟩
      · exact .inr ⟨j, family.lt present, rfl⟩
      · rw [reached_of_executes (family.proper [i] there)
          (not_continues good inside)] at before
        exact absurd before (Nat.not_lt.mpr after)

/-- The processes forked are the children of `main`. -/
theorem Recorded.children (recorded : Recorded succeeds trace last)
    (family : Family N succeeds last) (good : ∀ i < N, succeeds [i]) :
    last.children [] = forkedIn trace := by
  have distinct := family.distinct
  rw [recorded.forked, List.nodup_cons] at distinct
  rw [State.children, recorded.forked, List.filter_cons_of_neg (by simp),
    List.filter_eq_self]
  intro path member
  have present : path ∈ last.processes :=
    recorded.forked ▸ List.mem_cons_of_mem _ member
  rcases family.childrenOnly good present with rfl | ⟨i, _, rfl⟩
  · exact absurd member distinct.1
  · rfl

theorem Recorded.length_forkedIn (recorded : Recorded succeeds trace last)
    (family : Family N succeeds last) (good : ∀ i < N, succeeds [i]) :
    (forkedIn trace).length = reached N succeeds [] (last.point []) := by
  rw [← recorded.children family good, family.length_children family.root]
  exact Nat.sub_zero _

theorem intended (steps : (zad2 N succeeds).Run initial trace last)
    (good : ∀ i < N, succeeds [i]) : Intended N trace last := by
  obtain ⟨family, gathered⟩ := run_family steps
  have recorded := run_recorded steps
  have length := recorded.length_forkedIn family good
  have alone : ∀ path ∈ printedIn trace, path = [] := by
    intro path member
    obtain ⟨present, continues, _⟩ := (recorded.printed path).mp member
    rcases family.childrenOnly good present with root | ⟨i, inside, rfl⟩
    · exact root
    · exact absurd continues (not_continues good inside)
  have atMostOnce : (printedIn trace).length ≤ 1 := by
    have within : printedIn trace ⊆ [[]] := fun path member =>
      List.mem_singleton.mpr (alone path member)
    exact (recorded.distinct.subperm within).length_le
  refine ⟨?_, ?_, alone, atMostOnce, ?_, ?_, ?_⟩
  · exact length.trans_le (family.reached_le family.root)
  · intro ended
    exact length.trans (reached_of_ended (ended [] family.root) (.inl rfl))
  · intro ended
    have printed : [] ∈ printedIn trace :=
      (recorded.printed []).mpr
        ⟨family.root, .inl rfl, ended [] family.root⟩
    exact Nat.le_antisymm atMostOnce (List.length_pos_of_mem printed)
  · intro printed
    obtain ⟨_, continues, ended⟩ := (recorded.printed []).mp printed
    refine ⟨length.trans (reached_of_ended ended continues), ?_⟩
    have childless := gathered.childless family.root continues ended
    rw [← recorded.children family good]
    intro child member
    rw [childless child member]
    rfl
  · intro path failed i forked
    obtain ⟨present, child, bad⟩ := recorded.failed path failed
    rcases family.childrenOnly good present with root | ⟨j, inside, rfl⟩
    · exact child root
    · exact not_continues good inside (.inr bad)

/-- All is as intended exactly if `execl` succeeds in every child of `main`. -/
theorem intended_iff_executed (N : Nat) (succeeds : Path → Bool) :
    (zad2 N succeeds).Inevitable (fun _ _ => True) State.Ended initial ∧
      ((∀ {trace last}, (zad2 N succeeds).Run initial trace last →
          Intended N trace last) ↔
        ∀ i < N, succeeds [i]) := by
  refine ⟨inevitable_ended N succeeds, ?_, fun good _ _ steps =>
    intended steps good⟩
  intro always i inside
  by_contra bad
  obtain ⟨trace, last, steps, ended⟩ :=
    (inevitable_ended N succeeds).exists_run
  obtain ⟨family, _⟩ := run_family steps
  have through : reached N succeeds [] (last.point []) = N :=
    reached_of_ended (ended [] family.root) (.inl rfl)
  have child : [i] ∈ last.processes :=
    family.child_iff.mpr
      ⟨family.root, Nat.zero_le i, inside.trans_eq through.symm⟩
  have printed : [i] ∈ printedIn trace :=
    ((run_recorded steps).printed [i]).mpr
      ⟨child, .inr (Bool.not_eq_true _ ▸ bad), ended _ child⟩
  cases (always steps).alone [i] printed

/-- `main` forks two children and gets to its waits. -/
private def twoForks : List Action :=
  List.replicate 3 (.process [])

/-- The first child fails, forks a child of its own, which fails too, and waits
for it; then the second child fails, and `main` waits for both. -/
private def failingSchedule : List Action :=
  List.flatten
    [twoForks, List.replicate 3 (.process [0]),
      List.replicate 6 (.process [1, 0]), [.wait [0] 1],
      List.replicate 3 (.process [0]), List.replicate 6 (.process [1]),
      [.wait [] 0, .wait [] 1], List.replicate 2 (.process [])]

private theorem failing_executes :
    ((zad2 2 fun _ => false).execute (fun _ _ => True) initial
      failingSchedule).isSome := by
  decide +kernel

private def failing : State × List Event :=
  ((zad2 2 fun _ => false).execute (fun _ _ => True) initial
    failingSchedule).get failing_executes

/-- Without `child.out`, two children become three, and all print `Rodzic`. -/
theorem main_repeated :
    (zad2 2 fun _ => false).Run initial failing.2 failing.1 ∧
      forkedIn failing.2 = [[0], [1], [1, 0]] ∧
      printedIn failing.2 = [[1, 0], [0], [1], []] ∧
      ¬ ∀ {N succeeds trace last},
        (zad2 N succeeds).Run initial trace last → Intended N trace last := by
  have steps := Machine.execute_get_runWithin failing_executes
  have forked : forkedIn failing.2 = [[0], [1], [1, 0]] := by decide +kernel
  have printed : printedIn failing.2 = [[1, 0], [0], [1], []] := by
    decide +kernel
  refine ⟨steps, forked, printed, fun always => ?_⟩
  have few := (always steps).few
  revert few
  decide +kernel

end Runs

end SysOp.Lab1.Zad2
