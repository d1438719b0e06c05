import SysOp.Lab5.Sections
import SysOp.Lab5.Zad3.Correctness

/-!
# The consistency check of the manager

The manager compares the two counts with the value of `full`.  The mutex
guards the counts but not `full`: a producer that has yet to post it and a
consumer that has already taken it make the two differ, and the warning then
comes although nothing is wrong with the data.
-/

namespace SysOp.Lab5.Zad3

open SysOp.Foundation

abbrev Monitored := State SharedMemory Order Receipt

/-- Every task in the rings is announced by `full`, and promised to nobody. -/
def Settled (state : Monitored) : Prop :=
  state.unposted = 0 ∧ state.unserved = 0

instance (state : Monitored) : Decidable (Settled state) :=
  inferInstanceAs (Decidable (_ ∧ _))

/-- About to call `sem_getvalue(full, &full_val)`. -/
def readsFull : Manager → Bool
  | .readFull _ => true
  | _ => false

/-- The manager reads `full` in settled states only. -/
def Calm (state : Monitored) : Action Seed → Prop
  | .manager index =>
      ∀ manager ∈ state.managers[index]?,
        readsFull manager = true → Settled state
  | _ => True

instance (state : Monitored) (action : Action Seed) :
    Decidable (Calm state action) :=
  match action with
  | .manager index => inferInstanceAs (Decidable
      (∀ manager ∈ state.managers[index]?,
        readsFull manager = true → Settled state))
  | .startProducer _ | .startConsumer | .startManager | .producer _ _
  | .consumer _ => .isTrue trivial

/-- A manager about to check will find the counts to be what it has read. -/
def Checked (state : Monitored) : Prop :=
  ∀ (index emptyVal fullVal : Nat),
    state.managers[index]? = some (.checking emptyVal fullVal) →
    managerProgram.total state.ipc.shm = fullVal

section Steps

variable {state next : Monitored} {action : Action Seed} {index : Nat}
  {events : List (Event Order Receipt)}

theorem Safe.total_eq (safe : Safe state) :
    managerProgram.total state.ipc.shm =
      (state.ipc.full + state.unposted + state.unserved : Nat) :=
  safe.counted

theorem Safe.total_eq_full_iff (safe : Safe state) :
    managerProgram.total state.ipc.shm = state.ipc.full ↔ Settled state := by
  rw [safe.total_eq, Settled]
  omega

/-- Only the reading step leads a manager to its check. -/
theorem reads_full {emptyVal fullVal : Nat}
    (taken : step (program true) state (.manager index) = some (next, events))
    (found : next.managers[index]? = some (.checking emptyVal fullVal)) :
    state.managers[index]? = some (.readFull emptyVal) ∧
      fullVal = state.ipc.full ∧ next.ipc = state.ipc := by
  obtain ⟨manager, before, after, ipc, _, there, moved, rfl⟩ :=
    manager_step taken
  obtain ⟨inside, _⟩ := List.getElem?_eq_some_iff.mp there
  rw [List.getElem?_set_self inside] at found
  cases found
  cases before with
  | readFull =>
      cases moved
      exact ⟨there, rfl, rfl⟩
  | waitMutex => simp [managerStep] at moved
  | aging | readEmpty | checking | postMutex | ended => cases moved

theorem readFull_step {emptyVal : Nat}
    (here : state.managers[index]? = some (.readFull emptyVal))
    (taken : step (program true) state (.manager index) = some (next, events)) :
    next.managers[index]? = some (.checking emptyVal state.ipc.full) ∧
      next.ipc = state.ipc := by
  obtain ⟨manager, before, after, ipc, _, there, moved, rfl⟩ :=
    manager_step taken
  obtain ⟨inside, _⟩ := List.getElem?_eq_some_iff.mp there
  rw [here] at there
  cases there
  cases moved
  exact ⟨List.getElem?_set_self inside, rfl⟩

theorem checked_iff_calm (safe : Safe state) (checked : Checked state)
    (taken : step (program true) state action = some (next, events)) :
    Checked next ↔ Calm state action := by
  constructor
  · intro still
    cases action with
    | manager index =>
        intro manager here reads
        cases manager with
        | readFull emptyVal =>
            obtain ⟨arrived, same⟩ := readFull_step here taken
            have equal := still index emptyVal _ arrived
            rw [same] at equal
            exact safe.total_eq_full_iff.mp equal
        | _ => cases reads
    | _ => trivial
  · intro calm index emptyVal fullVal found
    by_cases own : action = .manager index
    · subst own
      obtain ⟨here, rfl, same⟩ := reads_full taken found
      rw [same]
      exact safe.total_eq_full_iff.mpr (calm _ here rfl)
    · rcases managers_other own taken found with before | started
      · have kept := guarded_step safe.exclusive before rfl own taken
        rw [kept.1]
        exact checked index emptyVal fullVal before
      · cases started

/-- A warning comes from a check that has failed. -/
theorem Checked.not_warned (checked : Checked state)
    (taken : step (program true) state action = some (next, events)) :
    .warned ∉ events := by
  intro warned
  cases action with
  | manager index =>
      obtain ⟨manager, before, after, ipc, managed, there, moved, rfl⟩ :=
        manager_step taken
      cases managed
      cases before with
      | checking emptyVal fullVal =>
          cases moved
          rw [if_neg (not_not_intro (checked index emptyVal fullVal there))]
            at warned
          cases warned
      | waitMutex =>
          simp only [managerStep, Option.map_eq_some_iff, Prod.mk.injEq]
            at moved
          obtain ⟨_, _, _, _, rfl⟩ := moved
          simp at warned
      | ended => cases moved
      | aging | readEmpty | readFull | postMutex =>
          cases moved
          simp at warned
  | startProducer | startConsumer | startManager =>
      cases taken
      cases warned
  | producer =>
      obtain ⟨_, _, _, _, moved, _⟩ := producer_step taken
      rcases producerStep_effect moved with ⟨_, _, _, _, rfl, _⟩ | ⟨rfl, _⟩
      · simp at warned
      · cases warned
  | consumer =>
      obtain ⟨_, _, _, _, moved, _⟩ := consumer_step taken
      rcases consumerStep_effect moved with ⟨_, _, _, rfl, _⟩ | ⟨rfl, _⟩
      · simp at warned
      · cases warned

end Steps

section Runs

variable {trace later : List (Event Order Receipt)}
  {state next evaluated : Monitored} {index : Nat}

/-- A failed comparison stays failed until its manager reports it. -/
theorem warns_of_unequal {emptyVal fullVal : Nat}
    (accounted : next.Accounted K)
    (here : next.managers[index]? = some (.checking emptyVal fullVal))
    (unequal : managerProgram.total next.ipc.shm ≠ fullVal)
    (onward : (system (program true)).RunWithin
      (fun _ other => other ≠ .manager index) next later evaluated) :
    ∃ after, step (program true) evaluated (.manager index) =
      some (after, [.warned]) := by
  have held : evaluated.Accounted K ∧
      evaluated.managers[index]? = some (.checking emptyVal fullVal) ∧
      evaluated.ipc.shm = next.ipc.shm := by
    refine onward.invariant (fun reached => reached.Accounted K ∧
      reached.managers[index]? = some (.checking emptyVal fullVal) ∧
      reached.ipc.shm = next.ipc.shm) ⟨accounted, here, rfl⟩ ?_
    rintro reached action following events ⟨counted, found, same⟩ other taken
    have exclusive : reached.inside ≤ 1 := by
      have sum := counted.mutex
      omega
    have kept := guarded_step exclusive found rfl other taken
    exact ⟨(step_move taken).accounted counted, kept.2, kept.1.trans same⟩
  obtain ⟨_, found, same⟩ := held
  rw [← same] at unequal
  simp only [step, program, if_true, Option.bind_some, moveAt, found,
    managerStep, if_pos unequal, Option.map_some]
  exact ⟨_, rfl⟩

theorem calm_run_checked
    (run : (system (program true)).RunWithin Calm (initial (program true))
      trace state) :
    (∃ queues, Keeps state queues) ∧ Checked state ∧ .warned ∉ trace := by
  refine run.history (fun past reached =>
    (∃ queues, Keeps reached queues) ∧ Checked reached ∧ .warned ∉ past)
    ⟨⟨_, initial_keeps (program_implements true)⟩, ?_, List.not_mem_nil⟩ ?_
  · intro index emptyVal fullVal found
    cases found
  · rintro past reached action next events ⟨⟨queues, keeps⟩, checked, unwarned⟩
      calm taken
    obtain ⟨after, _, kept⟩ :=
      (step_move taken).keeps (program_implements true) keeps
    refine ⟨⟨after, kept⟩,
      (checked_iff_calm (Keeps.safe keeps) checked taken).mpr calm, ?_⟩
    rw [List.mem_append]
    exact not_or.mpr ⟨unwarned, checked.not_warned taken⟩

/-- As long as `full` is read in settled states only, the check finds the
counts it expects and never warns; the first time it is not, it warns. -/
theorem warned_iff_unsettled
    (run : (system (program true)).RunWithin Calm (initial (program true))
      trace state) :
    Checked state ∧ .warned ∉ trace ∧
    ∀ action next events,
      step (program true) state action = some (next, events) →
      (Checked next ↔ Calm state action) ∧
      (¬ Calm state action → ∀ later evaluated,
        (system (program true)).RunWithin (fun _ other => other ≠ action)
          next later evaluated →
        ∃ after, step (program true) evaluated action =
          some (after, [.warned])) := by
  obtain ⟨⟨queues, keeps⟩, checked, unwarned⟩ := calm_run_checked run
  refine ⟨checked, unwarned, ?_⟩
  intro action next events taken
  refine ⟨checked_iff_calm (Keeps.safe keeps) checked taken, ?_⟩
  intro hasty later evaluated onward
  cases action with
  | manager index =>
      simp only [Calm, not_forall] at hasty
      obtain ⟨manager, here, reads, unsettled⟩ := hasty
      cases manager with
      | readFull emptyVal =>
          obtain ⟨arrived, same⟩ := readFull_step here taken
          apply warns_of_unequal ((step_move taken).accounted keeps.accounted)
            arrived ?_ onward
          rw [same]
          exact fun equal =>
            unsettled ((Keeps.safe keeps).total_eq_full_iff.mp equal)
      | _ => cases reads
  | _ => exact absurd trivial hasty

end Runs

/-- One task is on its way, `full` posted or not, when the manager comes. -/
def monitoredSchedule (posts : Nat) : List (Action Seed) :=
  [.startProducer 1, .startManager] ++
    List.replicate (5 + posts) (.producer 0 ⟨fun index => index, 50⟩) ++
    List.replicate 3 (.manager 0)

def settled : Monitored × List (Event Order Receipt) :=
  ((system (program true)).execute Calm (initial (program true))
    (monitoredSchedule 1)).get (by decide)

/-- The same, but `full` has not been posted yet. -/
def unsettled : Monitored × List (Event Order Receipt) :=
  ((system (program true)).execute (fun _ _ => True) (initial (program true))
    (monitoredSchedule 0 ++ [.manager 0])).get (by decide)

theorem warned_iff_unsettled_posted :
    Checked settled.1 ∧ .warned ∉ settled.2 ∧
    ∀ action next events,
      step (program true) settled.1 action = some (next, events) →
      (Checked next ↔ Calm settled.1 action) ∧
      (¬ Calm settled.1 action → ∀ later evaluated,
        (system (program true)).RunWithin (fun _ other => other ≠ action)
          next later evaluated →
        ∃ after, step (program true) evaluated action =
          some (after, [.warned])) :=
  warned_iff_unsettled (Machine.execute_get_runWithin _)

/-- The manager warns of a task whose producer has yet to post `full`; the
rings and the semaphores are as they should be. -/
theorem warned_unposted :
    ∃ (trace : List (Event Order Receipt)) (state next : Monitored),
      (system (program true)).Run (initial (program true)) trace state ∧
        Safe state ∧ state.managers[0]? = some (.checking 9 0) ∧
        managerProgram.total state.ipc.shm = 1 ∧
        step (program true) state (.manager 0) = some (next, [.warned]) := by
  have run : (system (program true)).Run (initial (program true))
      unsettled.2 unsettled.1 :=
    Machine.execute_get_runWithin _
  obtain ⟨queues, _, keeps⟩ := run_keeps run
  exact ⟨_, _, _, run, Keeps.safe keeps, rfl, rfl, rfl⟩

end SysOp.Lab5.Zad3
