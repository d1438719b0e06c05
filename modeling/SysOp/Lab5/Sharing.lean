import SysOp.Lab5.Startup

/-!
# Processes with the same four objects run the protocol

However the processes are started, the first to open an object makes it as the
protocol expects it, and nobody after that makes it anew.  The cleaner starts
another group, unless it runs between the calls of somebody's setup.
-/

namespace SysOp.Lab5

open SysOp.Foundation

section Kernel

variable {Memory : Type}

/-- The names stand for nothing that has not been made. -/
structure Kernel.Sound (kernel : Kernel Memory) : Prop where
  shm : kernel.shm.Sound
  mutex : kernel.mutex.Sound
  empty : kernel.empty.Sound
  full : kernel.full.Sound

/-- What has been made is still there. -/
structure Kernel.Keeps (kernel after : Kernel Memory) : Prop where
  shm : ∀ {id}, kernel.shm.Made id → after.shm.Made id
  mutex : ∀ {id}, kernel.mutex.Made id → after.mutex.Made id
  empty : ∀ {id}, kernel.empty.Made id → after.empty.Made id
  full : ∀ {id}, kernel.full.Made id → after.full.Made id

end Kernel

namespace Startup

def Apart (handles other : Handles) : Prop :=
  handles.shm ≠ other.shm ∧ handles.mutex ≠ other.mutex ∧
    handles.empty ≠ other.empty ∧ handles.full ≠ other.full

section Sharing

variable {Memory Seed Order Receipt : Type}
  {program : Program Memory Seed Order Receipt}

/-- What the processes in the protocol have open. -/
def State.handles (state : State program) : List Handles :=
  state.producers.map Prod.fst ++ state.consumers.map Prod.fst ++
    state.managers.map Prod.fst

def Made (kernel : Kernel Memory) (handles : Handles) : Prop :=
  kernel.shm.Made handles.shm ∧ kernel.mutex.Made handles.mutex ∧
    kernel.empty.Made handles.empty ∧ kernel.full.Made handles.full

/-- What a setup has got so far satisfies these. -/
def Got (shm mutex empty : Nat → Prop) : Setup → Prop
  | .openingShm => True
  | .truncating id | .mapping id | .openingMutex id => shm id
  | .openingEmpty id mutexId => shm id ∧ mutex mutexId
  | .openingFull id mutexId emptyId => shm id ∧ mutex mutexId ∧ empty emptyId

/-- Only objects that have been made are in use. -/
structure Valid (state : State program) : Prop where
  sound : state.kernel.Sound
  setups : ∀ process ∈ state.settingUp, Got state.kernel.shm.Made
    state.kernel.mutex.Made state.kernel.empty.Made process.2
  running : ∀ handles ∈ state.handles, Made state.kernel handles

/-- The processes with these handles, as the protocol knows them. -/
structure Represents (group : Handles) (state : State program)
    (abstract : Lab5.State Memory Order Receipt) : Prop where
  ipc : abstract.ipc = Startup.ipc program state.kernel group
  producers : abstract.producers = project group state.producers
  consumers : abstract.consumers = project group state.consumers
  managers : abstract.managers = project group state.managers

theorem Got.imp {shm mutex empty shm' mutex' empty' : Nat → Prop}
    {setup : Setup} (got : Got shm mutex empty setup)
    (onShm : ∀ {id}, shm id → shm' id)
    (onMutex : ∀ {id}, mutex id → mutex' id)
    (onEmpty : ∀ {id}, empty id → empty' id) :
    Got shm' mutex' empty' setup := by
  cases setup with
  | openingShm => trivial
  | truncating | mapping | openingMutex => exact onShm got
  | openingEmpty => exact ⟨onShm got.1, onMutex got.2⟩
  | openingFull => exact ⟨onShm got.1, onMutex got.2.1, onEmpty got.2.2⟩

theorem Made.keep {kernel after : Kernel Memory} {handles : Handles}
    (made : Made kernel handles) (keeps : kernel.Keeps after) :
    Made after handles :=
  ⟨keeps.shm made.1, keeps.mutex made.2.1, keeps.empty made.2.2.1,
    keeps.full made.2.2.2⟩

section Calls

variable {kernel : Kernel Memory}

variable (program) in
theorem setupStep_sound (sound : kernel.Sound) (setup : Setup) :
    (setupStep program kernel setup).1.Sound := by
  cases setup with
  | openingShm =>
      exact { sound with shm := Named.openCreate_sound _ sound.shm }
  | truncating => exact { sound with shm := Named.write_sound _ sound.shm }
  | mapping => exact sound
  | openingMutex =>
      exact { sound with mutex := Named.openCreate_sound _ sound.mutex }
  | openingEmpty =>
      exact { sound with empty := Named.openCreate_sound _ sound.empty }
  | openingFull =>
      exact { sound with full := Named.openCreate_sound _ sound.full }

variable (program) in
theorem setupStep_keeps (kernel : Kernel Memory) (setup : Setup) :
    kernel.Keeps (setupStep program kernel setup).1 := by
  cases setup with
  | openingShm => exact ⟨Named.made_openCreate _, id, id, id⟩
  | truncating => exact ⟨(Named.made_write_iff _).mpr, id, id, id⟩
  | mapping => exact ⟨id, id, id, id⟩
  | openingMutex => exact ⟨id, Named.made_openCreate _, id, id⟩
  | openingEmpty => exact ⟨id, id, Named.made_openCreate _, id⟩
  | openingFull => exact ⟨id, id, id, Named.made_openCreate _⟩

variable (program) in
/-- A call adds one object that has been made. -/
theorem got_setupStep (sound : kernel.Sound) {setup : Setup}
    (got : Got kernel.shm.Made kernel.mutex.Made kernel.empty.Made setup) :
    (setupStep program kernel setup).2.elim
      (Got (setupStep program kernel setup).1.shm.Made
        (setupStep program kernel setup).1.mutex.Made
        (setupStep program kernel setup).1.empty.Made)
      (Made (setupStep program kernel setup).1) := by
  cases setup with
  | openingShm => exact Named.made_of_openCreate _ sound.shm
  | truncating => exact (Named.made_write_iff _).mpr got
  | mapping => exact got
  | openingMutex => exact ⟨got, Named.made_of_openCreate _ sound.mutex⟩
  | openingEmpty =>
      exact ⟨got.1, got.2, Named.made_of_openCreate _ sound.empty⟩
  | openingFull =>
      exact ⟨got.1, got.2.1, got.2.2, Named.made_of_openCreate _ sound.full⟩

theorem cleanerStep_sound (sound : kernel.Sound) (cleaner : Cleaner) :
    (cleanerStep kernel cleaner).1.Sound := by
  cases cleaner with
  | resting => exact { sound with shm := Named.unlink_sound }
  | unlinkingMutex => exact { sound with mutex := Named.unlink_sound }
  | unlinkingEmpty => exact { sound with empty := Named.unlink_sound }
  | unlinkingFull => exact { sound with full := Named.unlink_sound }

theorem cleanerStep_keeps (cleaner : Cleaner) :
    kernel.Keeps (cleanerStep kernel cleaner).1 := by
  cases cleaner <;> exact ⟨id, id, id, id⟩

theorem write_sound (sound : kernel.Sound) (handles : Handles)
    (result : Ipc Memory) : (write kernel handles result).Sound :=
  ⟨Named.write_sound _ sound.shm, Named.write_sound _ sound.mutex,
    Named.write_sound _ sound.empty, Named.write_sound _ sound.full⟩

theorem write_keeps (handles : Handles) (result : Ipc Memory) :
    kernel.Keeps (write kernel handles result) :=
  ⟨(Named.made_write_iff _).mpr, (Named.made_write_iff _).mpr,
    (Named.made_write_iff _).mpr, (Named.made_write_iff _).mpr⟩

end Calls

section Readings

variable {kernel : Kernel Memory} {handles group : Handles}

variable (program) in
/-- No setup changes what any objects hold. -/
theorem ipc_setupStep (kernel : Kernel Memory) (group : Handles)
    (setup : Setup) :
    ipc program (setupStep program kernel setup).1 group =
      ipc program kernel group := by
  cases setup with
  | truncating shm =>
      simp only [setupStep, truncate, ipc]
      by_cases same : group.shm = shm
      · rw [same]
        by_cases made : kernel.shm.Made shm
        · rw [Named.read_write_self _ _ made, Option.getD_some]
        · rw [Named.write_of_not_made _ made]
      · rw [Named.read_write_of_ne _ _ same]
  | mapping => rfl
  | openingShm | openingMutex | openingEmpty | openingFull =>
      simp only [setupStep, ipc, Named.read_openCreate]

theorem ipc_cleanerStep (cleaner : Cleaner) :
    ipc program (cleanerStep kernel cleaner).1 group =
      ipc program kernel group := by
  cases cleaner <;> rfl

theorem ipc_write_self (made : Made kernel group) (result : Ipc Memory) :
    ipc program (write kernel group result) group = result := by
  obtain ⟨shm, mutex, empty, full⟩ := made
  simp only [ipc, write, Named.read_write_self _ _ shm,
    Named.read_write_self _ _ mutex, Named.read_write_self _ _ empty,
    Named.read_write_self _ _ full, Option.getD_some]

theorem ipc_write_of_apart (apart : Apart handles group)
    (result : Ipc Memory) :
    ipc program (write kernel handles result) group =
      ipc program kernel group := by
  obtain ⟨shm, mutex, empty, full⟩ := apart
  simp only [ipc, write, Named.read_write_of_ne _ _ shm.symm,
    Named.read_write_of_ne _ _ mutex.symm,
    Named.read_write_of_ne _ _ empty.symm,
    Named.read_write_of_ne _ _ full.symm]

/-- A process that goes on is one of the group, or the group does not notice
it. -/
theorem project_step {Process Output : Type}
    {processes : List (Handles × Process)} {index : Nat} {before : Process}
    (found : processes[index]? = some (handles, before))
    (grouped : handles = group ∨ Apart handles group)
    (made : Made kernel handles) (after : Process) (result : Ipc Memory)
    (outputs : List Output) :
    (handles = group ∧ ∃ place,
      (project group processes)[place]? = some before ∧
        project group (processes.set index (handles, after)) =
          (project group processes).set place after ∧
        ipc program (write kernel handles result) group = result ∧
        project group (outputs.map (handles, ·)) = outputs) ∨
      project group (processes.set index (handles, after)) =
          project group processes ∧
        ipc program (write kernel handles result) group =
          ipc program kernel group ∧
        project group (outputs.map (handles, ·)) = [] := by
  rcases grouped with rfl | apart
  · obtain ⟨place, there, kept⟩ := project_set_self found
    exact .inl ⟨rfl, place, there, kept after, ipc_write_self made result,
      project_map_self outputs⟩
  · have different : handles ≠ group := fun same => apart.1 (same ▸ rfl)
    exact .inr ⟨project_set_of_ne found different,
      ipc_write_of_apart apart result, project_map_of_ne different outputs⟩

end Readings

section Steps

variable {state next : State program} {group : Handles}
  {action : Action program} {events : List (Handles × Event Order Receipt)}

theorem mem_handles {handles : Handles} :
    handles ∈ state.handles ↔
      handles ∈ state.producers.map Prod.fst ∨
        handles ∈ state.consumers.map Prod.fst ∨
        handles ∈ state.managers.map Prod.fst := by
  rw [State.handles, List.mem_append, List.mem_append, or_assoc]

@[simp]
theorem kernel_join (handles : Handles) (role : Role program) :
    (state.join handles role).kernel = state.kernel := by
  cases role <;> rfl

@[simp]
theorem settingUp_join (handles : Handles) (role : Role program) :
    (state.join handles role).settingUp = state.settingUp := by
  cases role <;> rfl

@[simp]
theorem cleaner_join (handles : Handles) (role : Role program) :
    (state.join handles role).cleaner = state.cleaner := by
  cases role <;> rfl

theorem handles_join (handles : Handles) (role : Role program)
    {other : Handles} :
    other ∈ (state.join handles role).handles ↔
      other = handles ∨ other ∈ state.handles := by
  cases role <;>
    simp only [State.join, mem_handles, List.map_append, List.mem_append,
      List.map_singleton, List.mem_singleton] <;> tauto

theorem map_fst_set {Process : Type} {processes : List (Handles × Process)}
    {index : Nat} {handles : Handles} {before : Process}
    (found : processes[index]? = some (handles, before)) (after : Process) :
    (processes.set index (handles, after)).map Prod.fst =
      processes.map Prod.fst := by
  obtain ⟨inside, same⟩ := List.getElem?_eq_some_iff.mp found
  have listed : index < (processes.map Prod.fst).length := by
    rwa [List.length_map]
  have own : (processes.map Prod.fst)[index] = handles := by
    rw [List.getElem_map, same]
  rw [List.map_set]
  change (processes.map Prod.fst).set index handles = _
  rw [← own, List.set_getElem_self]

theorem handles_producers {index : Nat} {handles : Handles}
    {before : Producer Order}
    (found : state.producers[index]? = some (handles, before))
    (kernel : Kernel Memory) (after : Producer Order) :
    ({ state with
      kernel, producers := state.producers.set index (handles, after) } :
      State program).handles = state.handles := by
  rw [State.handles, map_fst_set found, State.handles]

theorem handles_consumers {index : Nat} {handles : Handles}
    {before : Consumer Receipt}
    (found : state.consumers[index]? = some (handles, before))
    (kernel : Kernel Memory) (after : Consumer Receipt) :
    ({ state with
      kernel, consumers := state.consumers.set index (handles, after) } :
      State program).handles = state.handles := by
  rw [State.handles, map_fst_set found, State.handles]

theorem handles_managers {index : Nat} {handles : Handles} {before : Manager}
    (found : state.managers[index]? = some (handles, before))
    (kernel : Kernel Memory) (after : Manager) :
    ({ state with
      kernel, managers := state.managers.set index (handles, after) } :
      State program).handles = state.handles := by
  rw [State.handles, map_fst_set found, State.handles]

/-- Whoever is in the protocol stays there with what it has open. -/
theorem Move.handles (move : Move state action next events) {handles : Handles}
    (member : handles ∈ state.handles) : handles ∈ next.handles := by
  cases move with
  | join => exact (handles_join ..).mpr (.inr member)
  | producer found => rwa [handles_producers found]
  | consumer found => rwa [handles_consumers found]
  | manager _ found => rwa [handles_managers found]
  | spawn | setUp | leave | clean => exact member

theorem Valid.keep (valid : Valid state) (sound : next.kernel.Sound)
    (keeps : state.kernel.Keeps next.kernel)
    (settingUp : ∀ process ∈ next.settingUp, process ∈ state.settingUp ∨
      Got next.kernel.shm.Made next.kernel.mutex.Made next.kernel.empty.Made
        process.2)
    (running : ∀ handles ∈ next.handles, handles ∈ state.handles ∨
      Made next.kernel handles) : Valid next where
  sound := sound
  setups := by
    intro process member
    rcases settingUp process member with old | got
    · exact (valid.setups process old).imp keeps.shm keeps.mutex keeps.empty
    · exact got
  running := by
    intro handles member
    rcases running handles member with old | made
    · exact (valid.running handles old).keep keeps
    · exact made

theorem Move.valid (move : Move state action next events) (valid : Valid state) :
    Valid next := by
  cases move with
  | spawn role =>
      refine valid.keep valid.sound ⟨id, id, id, id⟩ ?_ fun _ => .inl
      intro process member
      rcases List.mem_append.mp member with old | new
      · exact .inl old
      · rw [List.mem_singleton.mp new]
        exact .inr trivial
  | leave index =>
      exact valid.keep valid.sound ⟨id, id, id, id⟩
        (fun _ member => .inl (List.mem_of_mem_eraseIdx member)) fun _ => .inl
  | @setUp _ _ before _ _ found called =>
      have got := got_setupStep program valid.sound
        (valid.setups _ (List.mem_of_getElem? found))
      have sound := setupStep_sound program valid.sound before
      have keeps := setupStep_keeps program state.kernel before
      rw [called] at got sound keeps
      refine valid.keep sound keeps ?_ fun _ => .inl
      intro process member
      rcases List.mem_or_eq_of_mem_set member with old | rfl
      · exact .inl old
      · exact .inr got
  | @join _ _ before _ _ found called =>
      have got := got_setupStep program valid.sound
        (valid.setups _ (List.mem_of_getElem? found))
      have sound := setupStep_sound program valid.sound before
      have keeps := setupStep_keeps program state.kernel before
      rw [called] at got sound keeps
      refine valid.keep ?_ ?_ ?_ ?_
      · rwa [kernel_join]
      · rwa [kernel_join]
      · rw [settingUp_join]
        exact fun _ member => .inl (List.mem_of_mem_eraseIdx member)
      · intro handles member
        rcases (handles_join ..).mp member with rfl | old
        · rw [kernel_join]
          exact .inr got
        · exact .inl old
  | producer found =>
      refine valid.keep (write_sound valid.sound _ _) (write_keeps _ _)
        (fun _ => .inl) ?_
      rw [handles_producers found]
      exact fun _ => .inl
  | consumer found =>
      refine valid.keep (write_sound valid.sound _ _) (write_keeps _ _)
        (fun _ => .inl) ?_
      rw [handles_consumers found]
      exact fun _ => .inl
  | manager _ found =>
      refine valid.keep (write_sound valid.sound _ _) (write_keeps _ _)
        (fun _ => .inl) ?_
      rw [handles_managers found]
      exact fun _ => .inl
  | clean =>
      exact valid.keep (cleanerStep_sound valid.sound _)
        (cleanerStep_keeps _) (fun _ => .inl) fun _ => .inl

/-- Everybody in the protocol has these objects open, or four others. -/
def Grouped (group : Handles) (state : State program) : Prop :=
  ∀ handles ∈ state.handles, handles = group ∨ Apart handles group

theorem initial_represents (group : Handles) :
    Represents group (initial : State program) (Lab5.initial program) :=
  ⟨rfl, rfl, rfl, rfl⟩

/-- A process that comes to the protocol starts in it, or in another group. -/
theorem represents_join {abstract : Lab5.State Memory Order Receipt}
    {handles : Handles} {role : Role program}
    (grouped : handles = group ∨ Apart handles group)
    (represents : Represents group state abstract) :
    Represents group (state.join handles role) abstract ∨
      ∃ action after,
        Lab5.step program abstract action = some (after, []) ∧
          Represents group (state.join handles role) after := by
  obtain ⟨ipc, producers, consumers, managers⟩ := represents
  have joined {Process : Type} (processes : List (Handles × Process))
      (process : Process) (own : handles = group) :
      project group (processes ++ [(handles, process)]) =
        project group processes ++ [process] := by
    rw [project_append, own]
    exact congrArg _ (project_map_self [process])
  have elsewhere {Process : Type} (processes : List (Handles × Process))
      (process : Process) (apart : Apart handles group) :
      project group (processes ++ [(handles, process)]) =
        project group processes := by
    have different : handles ≠ group := fun same => apart.1 (same ▸ rfl)
    rw [project_append]
    exact (congrArg _ (project_map_of_ne different [process])).trans
      (List.append_nil _)
  rcases grouped with own | apart
  · right
    cases role with
    | producer tasks =>
        refine ⟨.startProducer tasks, _, rfl, ipc, ?_, consumers, managers⟩
        exact (producers ▸ joined _ _ own).symm
    | consumer =>
        refine ⟨.startConsumer, _, rfl, ipc, producers, ?_, managers⟩
        exact (consumers ▸ joined _ _ own).symm
    | manager managed =>
        obtain ⟨manager, present⟩ := Option.isSome_iff_exists.mp managed
        refine ⟨.startManager, { abstract with
          managers := abstract.managers ++ [.waitMutex] }, ?_, ipc, producers,
          consumers, ?_⟩
        · simp only [Lab5.step, present, Option.map_some]
        · exact (managers ▸ joined _ _ own).symm
  · left
    cases role with
    | producer tasks =>
        exact ⟨ipc, producers.trans (elsewhere _ _ apart).symm, consumers,
          managers⟩
    | consumer =>
        exact ⟨ipc, producers, consumers.trans (elsewhere _ _ apart).symm,
          managers⟩
    | manager =>
        exact ⟨ipc, producers, consumers,
          managers.trans (elsewhere _ _ apart).symm⟩

/-- A step is one of the group, or the group does not notice it. -/
theorem Move.represents {abstract : Lab5.State Memory Order Receipt}
    (move : Move state action next events) (valid : Valid state)
    (grouped : Grouped group next)
    (represents : Represents group state abstract) :
    (project group events = [] ∧ Represents group next abstract) ∨
      ∃ action after,
        Lab5.step program abstract action =
            some (after, project group events) ∧
          Represents group next after := by
  obtain ⟨ipc, producers, consumers, managers⟩ := represents
  cases move with
  | spawn | leave => exact .inl ⟨rfl, ipc, producers, consumers, managers⟩
  | @setUp _ _ before _ _ _ called =>
      have same := ipc_setupStep program state.kernel group before
      rw [called] at same
      exact .inl ⟨rfl, ipc.trans same.symm, producers, consumers, managers⟩
  | @join index role before kernel handles found called =>
      have same := ipc_setupStep program state.kernel group before
      rw [called] at same
      have still : Represents group { state with
          kernel, settingUp := state.settingUp.eraseIdx index } abstract :=
        ⟨ipc.trans same.symm, producers, consumers, managers⟩
      have own := grouped handles ((handles_join ..).mpr (.inl rfl))
      rcases represents_join own still with stays | starts
      · exact .inl ⟨rfl, stays⟩
      · exact .inr starts
  | @producer index seed handles before after result events found moved =>
      have member : handles ∈ state.handles :=
        mem_handles.mpr (.inl (List.mem_map_of_mem (List.mem_of_getElem? found)))
      rw [Grouped, handles_producers found] at grouped
      rcases project_step found (grouped _ member) (valid.running _ member)
          after result events with
        ⟨rfl, place, there, kept, written, told⟩ | ⟨kept, written, told⟩
      · rw [← producers] at there kept
        rw [← ipc] at moved
        refine .inr ⟨.producer place seed, { abstract with
          ipc := result, producers := abstract.producers.set place after },
          ?_, written.symm, kept.symm, consumers, managers⟩
        rw [told, Lab5.step, moveAt_eq_some_iff.mpr
          ⟨before, after, there, moved, rfl⟩]
        rfl
      · exact .inl ⟨told, ipc.trans written.symm, producers.trans kept.symm,
          consumers, managers⟩
  | @consumer index handles before after result events found moved =>
      have member : handles ∈ state.handles :=
        mem_handles.mpr (.inr (.inl
          (List.mem_map_of_mem (List.mem_of_getElem? found))))
      rw [Grouped, handles_consumers found] at grouped
      rcases project_step found (grouped _ member) (valid.running _ member)
          after result events with
        ⟨rfl, place, there, kept, written, told⟩ | ⟨kept, written, told⟩
      · rw [← consumers] at there kept
        rw [← ipc] at moved
        refine .inr ⟨.consumer place, { abstract with
          ipc := result, consumers := abstract.consumers.set place after },
          ?_, written.symm, producers, kept.symm, managers⟩
        rw [told, Lab5.step, moveAt_eq_some_iff.mpr
          ⟨before, after, there, moved, rfl⟩]
        rfl
      · exact .inl ⟨told, ipc.trans written.symm, producers,
          consumers.trans kept.symm, managers⟩
  | @manager manager index handles before after result events managed found
      moved =>
      have member : handles ∈ state.handles :=
        mem_handles.mpr (.inr (.inr
          (List.mem_map_of_mem (List.mem_of_getElem? found))))
      rw [Grouped, handles_managers found] at grouped
      rcases project_step found (grouped _ member) (valid.running _ member)
          after result events with
        ⟨rfl, place, there, kept, written, told⟩ | ⟨kept, written, told⟩
      · rw [← managers] at there kept
        rw [← ipc] at moved
        refine .inr ⟨.manager place, { abstract with
          ipc := result, managers := abstract.managers.set place after },
          ?_, written.symm, producers, consumers, kept.symm⟩
        rw [told, Lab5.step, managed, Option.bind_some,
          moveAt_eq_some_iff.mpr ⟨before, after, there, moved, rfl⟩]
        rfl
      · exact .inl ⟨told, ipc.trans written.symm, producers, consumers,
          managers.trans kept.symm⟩
  | clean =>
      exact .inl ⟨rfl, ipc.trans (ipc_cleanerStep _).symm, producers,
        consumers, managers⟩

end Steps

section Runs

variable {state next : State program} {group : Handles}
  {trace : List (Handles × Event Order Receipt)}

theorem initial_valid : Valid (initial : State program) where
  sound := ⟨Named.init_sound, Named.init_sound, Named.init_sound,
    Named.init_sound⟩
  setups := fun _ member => absurd member List.not_mem_nil
  running := fun _ member => absurd member List.not_mem_nil

/-- What the processes with these four objects do is a run of the protocol,
while everybody else has four others. -/
theorem run_refines (run : (startup program).Run initial trace state)
    (grouped : Grouped group state) :
    ∃ abstract,
      (system program).Run (Lab5.initial program) (project group trace)
          abstract ∧ Represents group state abstract := by
  have invariant := run.history (fun past reached => Valid reached ∧
    (Grouped group reached → ∃ abstract,
      (system program).Run (Lab5.initial program) (project group past)
        abstract ∧ Represents group reached abstract))
    ⟨initial_valid, fun _ => ⟨_, .refl _, initial_represents group⟩⟩ ?_
  · exact invariant.2 grouped
  · rintro past before action after events ⟨valid, earlier⟩ _ taken
    have move := step_move taken
    refine ⟨move.valid valid, fun grouped => ?_⟩
    obtain ⟨abstract, steps, represents⟩ :=
      earlier fun handles member => grouped handles (move.handles member)
    rw [project_append]
    rcases move.represents valid grouped represents with
      ⟨silent, represents⟩ | ⟨action, later, stepped, represents⟩
    · exact ⟨abstract, by rwa [silent, List.append_nil], represents⟩
    · exact ⟨later, steps.tail trivial stepped, represents⟩

end Runs

end Sharing

end Startup

end SysOp.Lab5
