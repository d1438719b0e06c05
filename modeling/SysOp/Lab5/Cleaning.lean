import SysOp.Lab5.Sharing

/-!
# The cleaner between the setups

While no setup is under way, the cleaner takes all four names away from
whoever had the objects open, so that the next setup gets four new ones.
-/

namespace SysOp.Lab5

open SysOp.Foundation

section Kernel

variable {Memory : Type}

structure Kernel.Steady (kernel after : Kernel Memory) : Prop where
  shm : kernel.shm.Steady after.shm
  mutex : kernel.mutex.Steady after.mutex
  empty : kernel.empty.Steady after.empty
  full : kernel.full.Steady after.full

end Kernel

namespace Startup

section Cleaning

variable {Memory Seed Order Receipt : Type}
  {program : Program Memory Seed Order Receipt}

/-- No setup is under way while the cleaner runs. -/
def Tidy (state : State program) : Action program → Prop
  | .setup _ => state.cleaner = .resting
  | .clean => state.cleaner = .resting →
      ∀ process ∈ state.settingUp, process.2 = .openingShm
  | _ => True

instance (state : State program) :
    ∀ action : Action program, Decidable (Tidy state action)
  | .setup _ => inferInstanceAs (Decidable (state.cleaner = .resting))
  | .clean => inferInstanceAs (Decidable (state.cleaner = .resting →
      ∀ process ∈ state.settingUp, process.2 = .openingShm))
  | .spawn _ | .leave _ | .producer _ _ | .consumer _ | .manager _ =>
      .isTrue trivial

/-- The names stand for these objects. -/
structure Current (kernel : Kernel Memory) (handles : Handles) : Prop where
  shm : kernel.shm.current = some handles.shm
  mutex : kernel.mutex.current = some handles.mutex
  empty : kernel.empty.current = some handles.empty
  full : kernel.full.current = some handles.full

/-- The names stand for none of these objects. -/
structure Stale (kernel : Kernel Memory) (handles : Handles) : Prop where
  shm : kernel.shm.current ≠ some handles.shm
  mutex : kernel.mutex.current ≠ some handles.mutex
  empty : kernel.empty.current ≠ some handles.empty
  full : kernel.full.current ≠ some handles.full

/-- The names stand for what the setup has opened. -/
def Abreast (kernel : Kernel Memory) : Setup → Prop :=
  Got (kernel.shm.current = some ·) (kernel.mutex.current = some ·)
    (kernel.empty.current = some ·)

/-- What the cleaner has unlinked stays so. -/
def Unlinked (kernel : Kernel Memory) : Cleaner → Prop
  | .resting => True
  | .unlinkingMutex => kernel.shm.current = none
  | .unlinkingEmpty =>
      kernel.shm.current = none ∧ kernel.mutex.current = none
  | .unlinkingFull =>
      kernel.shm.current = none ∧ kernel.mutex.current = none ∧
        kernel.empty.current = none

structure Orderly (state : State program) : Prop where
  grouped : ∀ handles ∈ state.handles, Grouped handles state
  abreast : ∀ process ∈ state.settingUp, Abreast state.kernel process.2
  named : state.cleaner = .resting → ∀ handles ∈ state.handles,
    Current state.kernel handles ∨ Stale state.kernel handles
  unlinked : Unlinked state.kernel state.cleaner
  waiting : state.cleaner ≠ .resting →
    ∀ process ∈ state.settingUp, process.2 = .openingShm

section Names

variable {kernel after : Kernel Memory} {handles other : Handles}

theorem Current.eq (current : Current kernel handles)
    (others : Current kernel other) : handles = other := by
  cases handles
  cases other
  obtain ⟨shm, mutex, empty, full⟩ := current
  obtain ⟨shm', mutex', empty', full'⟩ := others
  simp_all

theorem Stale.apart (stale : Stale kernel handles)
    (current : Current kernel other) : Apart handles other :=
  ⟨fun same => stale.shm (same ▸ current.shm),
    fun same => stale.mutex (same ▸ current.mutex),
    fun same => stale.empty (same ▸ current.empty),
    fun same => stale.full (same ▸ current.full)⟩

theorem Apart.symm (apart : Apart handles other) : Apart other handles :=
  ⟨apart.1.symm, apart.2.1.symm, apart.2.2.1.symm, apart.2.2.2.symm⟩

theorem Current.steady (current : Current kernel handles)
    (made : Made kernel handles) (steady : kernel.Steady after) :
    Current after handles :=
  ⟨(steady.shm made.1).mpr current.shm,
    (steady.mutex made.2.1).mpr current.mutex,
    (steady.empty made.2.2.1).mpr current.empty,
    (steady.full made.2.2.2).mpr current.full⟩

theorem Stale.steady (stale : Stale kernel handles)
    (made : Made kernel handles) (steady : kernel.Steady after) :
    Stale after handles :=
  ⟨fun current => stale.shm ((steady.shm made.1).mp current),
    fun current => stale.mutex ((steady.mutex made.2.1).mp current),
    fun current => stale.empty ((steady.empty made.2.2.1).mp current),
    fun current => stale.full ((steady.full made.2.2.2).mp current)⟩

theorem Abreast.steady {setup : Setup} (abreast : Abreast kernel setup)
    (sound : kernel.Sound) (steady : kernel.Steady after) :
    Abreast after setup :=
  abreast.imp (fun current => (steady.shm (sound.shm _ current)).mpr current)
    (fun current => (steady.mutex (sound.mutex _ current)).mpr current)
    fun current => (steady.empty (sound.empty _ current)).mpr current

variable (program) in
theorem setupStep_steady (kernel : Kernel Memory) (setup : Setup) :
    kernel.Steady (setupStep program kernel setup).1 := by
  cases setup with
  | openingShm =>
      exact ⟨Named.openCreate_steady _, fun _ => .rfl, fun _ => .rfl,
        fun _ => .rfl⟩
  | truncating | mapping =>
      exact ⟨fun _ => .rfl, fun _ => .rfl, fun _ => .rfl, fun _ => .rfl⟩
  | openingMutex =>
      exact ⟨fun _ => .rfl, Named.openCreate_steady _, fun _ => .rfl,
        fun _ => .rfl⟩
  | openingEmpty =>
      exact ⟨fun _ => .rfl, fun _ => .rfl, Named.openCreate_steady _,
        fun _ => .rfl⟩
  | openingFull =>
      exact ⟨fun _ => .rfl, fun _ => .rfl, fun _ => .rfl,
        Named.openCreate_steady _⟩

variable (program) in
/-- A setup that has kept up with the names goes on so. -/
theorem abreast_setupStep {setup : Setup} (abreast : Abreast kernel setup) :
    (setupStep program kernel setup).2.elim
      (Abreast (setupStep program kernel setup).1)
      (Current (setupStep program kernel setup).1) := by
  cases setup with
  | openingShm => exact Named.current_openCreate _
  | truncating | mapping => exact abreast
  | openingMutex => exact ⟨abreast, Named.current_openCreate _⟩
  | openingEmpty =>
      exact ⟨abreast.1, abreast.2, Named.current_openCreate _⟩
  | openingFull =>
      exact ⟨abreast.1, abreast.2.1, abreast.2.2, Named.current_openCreate _⟩

end Names

section Steps

variable {state next : State program} {action : Action program}
  {events : List (Handles × Event Order Receipt)}

theorem Orderly.shrink (orderly : Orderly state)
    (kernel : next.kernel = state.kernel)
    (cleaner : next.cleaner = state.cleaner)
    (handles : next.handles = state.handles)
    (settingUp : ∀ process ∈ next.settingUp, process ∈ state.settingUp ∨
      process.2 = .openingShm) : Orderly next where
  grouped := by
    simp only [Grouped, handles]
    exact orderly.grouped
  abreast := by
    intro process member
    rw [kernel]
    rcases settingUp process member with old | fresh
    · exact orderly.abreast process old
    · rw [fresh]
      trivial
  named := by
    rw [kernel, cleaner, handles]
    exact orderly.named
  unlinked := by
    rw [kernel, cleaner]
    exact orderly.unlinked
  waiting := by
    intro busy process member
    rw [cleaner] at busy
    rcases settingUp process member with old | fresh
    · exact orderly.waiting busy process old
    · exact fresh

/-- Within the protocol no names change. -/
theorem Orderly.write (orderly : Orderly state) {handles : Handles}
    {result : Ipc Memory}
    (kernel : next.kernel = Startup.write state.kernel handles result)
    (cleaner : next.cleaner = state.cleaner)
    (others : next.handles = state.handles)
    (settingUp : next.settingUp = state.settingUp) : Orderly next where
  grouped := by
    simp only [Grouped, others]
    exact orderly.grouped
  abreast := by
    rw [kernel, settingUp]
    exact orderly.abreast
  named := by
    rw [kernel, cleaner, others]
    intro resting other member
    rcases orderly.named resting other member with current | stale
    · exact .inl ⟨current.shm, current.mutex, current.empty, current.full⟩
    · exact .inr ⟨stale.shm, stale.mutex, stale.empty, stale.full⟩
  unlinked := by
    rw [kernel, cleaner]
    exact orderly.unlinked
  waiting := by
    rw [cleaner, settingUp]
    exact orderly.waiting

/-- Who comes with what the names stand for is with those who have it. -/
theorem Orderly.join (orderly : Orderly state) {handles : Handles}
    (role : Role program) (resting : state.cleaner = .resting)
    (current : Current state.kernel handles) :
    Orderly (state.join handles role) where
  grouped := by
    have sided : ∀ other ∈ state.handles,
        other = handles ∨ Apart other handles := by
      intro other member
      rcases orderly.named resting other member with also | stale
      · exact .inl (also.eq current)
      · exact .inr (stale.apart current)
    intro one memberOne other memberOther
    rcases (handles_join ..).mp memberOne with rfl | oldOne <;>
      rcases (handles_join ..).mp memberOther with rfl | oldOther
    · exact .inl rfl
    · exact sided other oldOther
    · exact (sided one oldOne).imp Eq.symm Apart.symm
    · exact orderly.grouped one oldOne other oldOther
  abreast := by
    rw [kernel_join, settingUp_join]
    exact orderly.abreast
  named := by
    rw [kernel_join]
    intro _ other member
    rcases (handles_join ..).mp member with rfl | old
    · exact .inl current
    · exact orderly.named resting other old
  unlinked := by
    rw [kernel_join, cleaner_join]
    exact orderly.unlinked
  waiting := by
    rw [cleaner_join, settingUp_join]
    exact orderly.waiting

theorem Orderly.setUp (orderly : Orderly state) (valid : Valid state)
    (resting : state.cleaner = .resting) {kernel : Kernel Memory}
    (steady : state.kernel.Steady kernel)
    {settingUp : List (Role program × Setup)}
    (abreast : ∀ process ∈ settingUp, process ∈ state.settingUp ∨
      Abreast kernel process.2) :
    Orderly { state with kernel, settingUp } where
  grouped := orderly.grouped
  abreast := by
    intro process member
    rcases abreast process member with old | kept
    · exact (orderly.abreast process old).steady valid.sound steady
    · exact kept
  named := by
    intro _ handles member
    have made := valid.running handles member
    exact (orderly.named resting handles member).imp
      (·.steady made steady) (·.steady made steady)
  unlinked := by
    change Unlinked kernel state.cleaner
    rw [resting]
    trivial
  waiting := fun busy => absurd resting busy

/-- One of the four calls of the cleaner. -/
theorem Orderly.clean (orderly : Orderly state)
    (waiting : ∀ process ∈ state.settingUp, process.2 = .openingShm) :
    Orderly { state with
      kernel := (cleanerStep state.kernel state.cleaner).1
      cleaner := (cleanerStep state.kernel state.cleaner).2 } where
  grouped := orderly.grouped
  abreast := by
    intro process member
    rw [waiting process member]
    trivial
  named := by
    have unlinked := orderly.unlinked
    cases here : state.cleaner with
    | resting | unlinkingMutex | unlinkingEmpty =>
        intro resting
        cases resting
    | unlinkingFull =>
        rw [here] at unlinked
        obtain ⟨shm, mutex, empty⟩ := unlinked
        intro _ handles _
        right
        constructor <;>
          simp [cleanerStep, Named.unlink, shm, mutex, empty]
  unlinked := by
    have unlinked := orderly.unlinked
    cases here : state.cleaner <;> rw [here] at unlinked
    case resting => rfl
    case unlinkingMutex => exact ⟨unlinked, rfl⟩
    case unlinkingEmpty => exact ⟨unlinked.1, unlinked.2, rfl⟩
    case unlinkingFull => trivial
  waiting := fun _ => waiting

theorem Move.orderly (move : Move state action next events)
    (tidy : Tidy state action) (valid : Valid state)
    (orderly : Orderly state) : Orderly next := by
  cases move with
  | spawn role =>
      refine orderly.shrink rfl rfl rfl fun process member => ?_
      rcases List.mem_append.mp member with old | new
      · exact .inl old
      · rw [List.mem_singleton.mp new]
        exact .inr rfl
  | leave index =>
      exact orderly.shrink rfl rfl rfl fun _ member =>
        .inl (List.mem_of_mem_eraseIdx member)
  | @setUp index role before after kernel found called =>
      have steady := setupStep_steady program state.kernel before
      have abreast := abreast_setupStep program
        (orderly.abreast _ (List.mem_of_getElem? found))
      rw [called] at steady abreast
      refine orderly.setUp valid tidy steady fun process member => ?_
      rcases List.mem_or_eq_of_mem_set member with old | rfl
      · exact .inl old
      · exact .inr abreast
  | @join index role before kernel handles found called =>
      have steady := setupStep_steady program state.kernel before
      have current := abreast_setupStep program
        (orderly.abreast _ (List.mem_of_getElem? found))
      rw [called] at steady current
      have ready : Orderly { state with
          kernel, settingUp := state.settingUp.eraseIdx index } :=
        orderly.setUp valid tidy steady fun _ member =>
          .inl (List.mem_of_mem_eraseIdx member)
      exact ready.join role tidy current
  | producer found => exact orderly.write rfl rfl (handles_producers found ..) rfl
  | consumer found => exact orderly.write rfl rfl (handles_consumers found ..) rfl
  | manager _ found => exact orderly.write rfl rfl (handles_managers found ..) rfl
  | clean =>
      refine orderly.clean ?_
      by_cases resting : state.cleaner = .resting
      · exact tidy resting
      · exact orderly.waiting resting

end Steps

section Runs

variable {state : State program} {handles : Handles}
  {trace : List (Handles × Event Order Receipt)}

theorem initial_orderly : Orderly (initial : State program) where
  grouped := fun _ member => absurd member List.not_mem_nil
  abreast := fun _ member => absurd member List.not_mem_nil
  named := fun _ _ member => absurd member List.not_mem_nil
  unlinked := trivial
  waiting := fun _ _ member => absurd member List.not_mem_nil

theorem run_orderly
    (run : (startup program).RunWithin Tidy initial trace state) :
    Orderly state := by
  have invariant := run.invariant (fun reached => Valid reached ∧
    Orderly reached) ⟨initial_valid, initial_orderly⟩ ?_
  · exact invariant.2
  · rintro before action after events ⟨valid, orderly⟩ tidy taken
    have move := step_move taken
    exact ⟨move.valid valid, move.orderly tidy valid orderly⟩

/-- Whoever comes after a cleaning starts a protocol of its own, and everybody
else goes on with the one it is in. -/
theorem tidy_run_refines
    (run : (startup program).RunWithin Tidy initial trace state)
    (member : handles ∈ state.handles) :
    ∃ abstract,
      (system program).Run (Lab5.initial program) (project handles trace)
          abstract ∧ Represents handles state abstract :=
  run_refines run.run ((run_orderly run).grouped handles member)

end Runs

end Cleaning

end Startup

end SysOp.Lab5
