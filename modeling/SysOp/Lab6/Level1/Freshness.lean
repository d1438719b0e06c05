import SysOp.Lab6.Level1.Locks

/-!
# Stereo pairs at level one

The semaphores count every frame and the slots keep only the latest, so a
token that is left over lets `sync_thread` pass when there is nothing new to
read.
-/

namespace SysOp.Lab6.Level1

open SysOp.Foundation

/-- What `sync_thread` has stored, oldest first. -/
def storedPairs (trace : List Event) : List (Sides Frame) :=
  trace.filterMap fun
    | .stored pair => some pair
    | _ => none

def storedIds (side : Side) (trace : List Event) : List Int :=
  (storedPairs trace).map fun pair => (pair.get side).frameId

/-- While the program runs, `sync_thread` passes a semaphore only when the slot
of the camera holds a newer frame than the one it last stored. -/
def Awaits (state : State) : Action → Prop
  | .sync =>
      match state.sync with
      | .waiting side => state.isRunning = true →
          (state.syncFrames.get side).frameId < (state.slots.get side).frameId
      | _ => True
  | _ => True

instance (state : State) (action : Action) :
    Decidable (Awaits state action) := by
  unfold Awaits
  split
  · split <;> infer_instance
  · infer_instance

/-- The slot is still to be read in the running iteration. -/
def SyncPoint.reads (isRunning : Bool) : SyncPoint → Side → Bool
  | .waiting .right, .left | .testing, _ => isRunning
  | .lockingCamera, _ | .copyingLeft, _ | .copyingRight _, .right => true
  | _, _ => false

def SyncPoint.copied : SyncPoint → Side → Option Frame
  | .copyingRight left, .left => some left
  | .unlockingCamera pair, side | .comparing pair, side
  | .lockingSync pair, side | .storingLeft pair, side
  | .storingRight pair, side | .raising pair, side => some (pair.get side)
  | _, _ => none

/-- The frame `sync_thread` would store next. -/
def State.candidate (state : State) (side : Side) : Option Frame :=
  if state.sync.reads state.isRunning side then some (state.slots.get side)
  else state.sync.copied side

structure Fresh (trace : List Event) (state : State) : Prop where
  increasing : ∀ side, (storedIds side trace).Pairwise (· < ·)
  known : ∀ side, ∀ id ∈ storedIds side trace,
    id ≤ (state.syncFrames.get side).frameId
  newer : ∀ side, ∀ frame ∈ state.candidate side,
    ∀ id ∈ storedIds side trace, id < frame.frameId
  numbered : ∀ side,
    (state.slots.get side).frameId < (state.cameras.get side).nextId

section History

variable {trace events : List Event} {side : Side}

@[simp]
theorem storedPairs_append (earlier later : List Event) :
    storedPairs (earlier ++ later) = storedPairs earlier ++ storedPairs later :=
  List.filterMap_append

theorem storedIds_silent (silent : storedPairs events = []) :
    storedIds side (trace ++ events) = storedIds side trace := by
  simp [storedIds, silent]

theorem storedIds_stored (pair : Sides Frame) :
    storedIds side (trace ++ [.stored pair]) =
      storedIds side trace ++ [(pair.get side).frameId] := by
  simp [storedIds, storedPairs]

end History

section Steps

variable {trace events : List Event} {state next : State} {action : Action}

/-- A step that stores nothing, keeps the mailbox and never makes a frame
older. -/
theorem Fresh.silent (fresh : Fresh trace state)
    (silent : storedPairs events = [])
    (frames : next.syncFrames = state.syncFrames)
    (candidates : ∀ side, ∀ frame ∈ next.candidate side,
      ∃ old ∈ state.candidate side, old.frameId ≤ frame.frameId)
    (numbered : ∀ side,
      (next.slots.get side).frameId < (next.cameras.get side).nextId) :
    Fresh (trace ++ events) next where
  increasing side := by
    rw [storedIds_silent silent]
    exact fresh.increasing side
  known side := by
    rw [storedIds_silent silent, frames]
    exact fresh.known side
  newer side frame present id stored := by
    rw [storedIds_silent silent] at stored
    obtain ⟨old, candidate, younger⟩ := candidates side frame present
    exact lt_of_lt_of_le (fresh.newer side old candidate id stored) younger
  numbered := numbered

/-- A newer frame in a slot makes no candidate older. -/
theorem candidate_setSlot {side : Side} {frame : Frame}
    {other : Side} {seen : Frame} (present : seen ∈ next.candidate other)
    (sync : next.sync = state.sync)
    (isRunning : next.isRunning = state.isRunning)
    (slots : next.slots = state.slots.set side frame)
    (newer : (state.slots.get side).frameId ≤ frame.frameId) :
    ∃ old ∈ state.candidate other, old.frameId ≤ seen.frameId := by
  unfold State.candidate at present ⊢
  rw [sync, isRunning, slots] at present
  by_cases reads : state.sync.reads state.isRunning other
  · rw [if_pos reads, Option.mem_some_iff, Sides.get_set] at present
    refine ⟨state.slots.get other, by rw [if_pos reads]; rfl, ?_⟩
    split at present
    case isTrue same =>
      rw [← present, same]
      exact newer
    case isFalse => rw [present]
  · rw [if_neg reads] at present ⊢
    exact ⟨seen, present, le_refl _⟩

/-- A camera step leaves everybody else alone. -/
theorem CameraMove.fresh {side : Side} (move : CameraMove side state next)
    (fresh : Fresh trace state) : Fresh (trace ++ []) next := by
  have numbered := fresh.numbered
  have same : ∀ {camera : Camera}, camera.nextId =
      (state.cameras.get side).nextId → ∀ other,
      (state.slots.get other).frameId <
        ((state.cameras.set side camera).get other).nextId := by
    intro camera kept other
    rw [Sides.get_set]
    split
    case isTrue equal =>
      rw [kept, ← equal]
      exact numbered other
    case isFalse => exact numbered other
  cases move with
  | writeId here =>
      refine fresh.silent rfl rfl (fun other seen present =>
        candidate_setSlot present rfl rfl rfl (numbered side).le) ?_
      intro other
      simp only [State.setCamera, State.setSlot, Sides.get_set]
      split
      case isTrue => exact Int.lt_succ _
      case isFalse => exact numbered other
  | writeTimestamp here =>
      refine fresh.silent rfl rfl (fun other seen present =>
        candidate_setSlot present rfl rfl rfl (le_refl _)) ?_
      intro other
      simp only [State.setCamera, State.setSlot, Sides.get_set]
      split
      case isTrue => exact numbered side
      case isFalse => exact numbered other
  | begin | leave | lock | unlock | post =>
      exact fresh.silent rfl rfl
        (fun other frame present => ⟨frame, present, le_refl _⟩) (same rfl)

/-- `sync_thread` moves on with the frames it has. -/
theorem Fresh.onward (fresh : Fresh trace state)
    (slots : next.slots = state.slots) (cameras : next.cameras = state.cameras)
    (frames : next.syncFrames = state.syncFrames)
    (candidates : ∀ side, ∀ frame ∈ next.candidate side,
      frame ∈ state.candidate side) :
    Fresh (trace ++ []) next := by
  apply fresh.silent rfl frames
  · intro side frame present
    exact ⟨frame, candidates side frame present, le_refl _⟩
  · intro side
    rw [slots, cameras]
    exact fresh.numbered side

theorem Fresh.take {side : Side} (fresh : Fresh trace state)
    (here : state.sync = .waiting side)
    (awaited : state.isRunning = true →
      (state.syncFrames.get side).frameId <
        (state.slots.get side).frameId) :
    Fresh (trace ++ [.took side])
      { state.take side with sync := .afterWait side } where
  increasing other := by
    rw [storedIds_silent rfl]
    exact fresh.increasing other
  known other := by
    rw [storedIds_silent rfl]
    exact fresh.known other
  newer other frame present id stored := by
    rw [storedIds_silent rfl] at stored
    cases running : state.isRunning with
    | false =>
        cases side <;> cases other <;>
          simp [State.candidate, State.take, SyncPoint.afterWait,
            SyncPoint.reads, SyncPoint.copied, running] at present
    | true =>
        have slot : frame = state.slots.get other := by
          cases side <;> cases other <;>
            simp_all [State.candidate, State.take, SyncPoint.afterWait,
              SyncPoint.reads, SyncPoint.copied]
        by_cases same : other = side
        · subst same
          rw [slot]
          exact lt_of_le_of_lt (fresh.known other id stored) (awaited running)
        · apply fresh.newer other frame _ id stored
          cases side <;> cases other <;>
            simp_all [State.candidate, State.take, SyncPoint.afterWait,
              SyncPoint.reads, SyncPoint.copied]
  numbered := fresh.numbered

/-- One half of the pair goes into the mailbox. -/
theorem Fresh.store (fresh : Fresh trace state) (side : Side)
    (pair : Sides Frame)
    (candidate : ∀ other, state.candidate other = some (pair.get other))
    (kept : ∀ other, next.candidate other = state.candidate other)
    (frames : next.syncFrames = state.syncFrames.set side (pair.get side))
    (slots : next.slots = state.slots)
    (cameras : next.cameras = state.cameras) :
    Fresh (trace ++ []) next where
  increasing other := by
    rw [storedIds_silent rfl]
    exact fresh.increasing other
  known other id stored := by
    rw [storedIds_silent rfl] at stored
    rw [frames, Sides.get_set]
    split
    case isTrue same =>
      subst same
      exact (fresh.newer other _ (candidate other) id stored).le
    case isFalse => exact fresh.known other id stored
  newer other frame present id stored := by
    rw [storedIds_silent rfl] at stored
    rw [kept] at present
    exact fresh.newer other frame present id stored
  numbered other := by
    rw [slots, cameras]
    exact fresh.numbered other

theorem Fresh.raise {pair : Sides Frame} (fresh : Fresh trace state)
    (written : state.Written) (here : state.sync = .raising pair) :
    Fresh (trace ++ [.stored pair])
      { state with hasNewSyncPair := true, sync := .unlockingSync } where
  increasing side := by
    rw [storedIds_stored, List.pairwise_append]
    refine ⟨fresh.increasing side, List.pairwise_singleton .., ?_⟩
    intro id stored last membership
    rw [List.mem_singleton.mp membership]
    apply fresh.newer side (pair.get side) _ id stored
    simp [State.candidate, here, SyncPoint.reads, SyncPoint.copied]
  known side id stored := by
    rw [storedIds_stored, List.mem_append, List.mem_singleton] at stored
    rcases stored with old | new
    · exact fresh.known side id old
    · rw [new, written side (pair.get side) (by rw [here]; rfl)]
  newer side frame present := by cases side <;> cases present
  numbered := fresh.numbered

theorem SyncMove.fresh (move : SyncMove state next events)
    (fresh : Fresh trace state) (written : state.Written)
    (permitted : Awaits state .sync) : Fresh (trace ++ events) next := by
  cases move with
  | begin here | leave here | pass here | stop here | lockCamera here
  | copyLeft here | copyRight here | unlockCamera here | accept here
  | discard here | lockSync here | unlockSync here =>
      refine fresh.onward rfl rfl rfl ?_
      intro side frame present
      cases side <;>
        simp_all [State.candidate, SyncPoint.reads, SyncPoint.copied, Sides.get]
  | take here posted =>
      apply fresh.take here
      simpa [Awaits, here] using permitted
  | @storeLeft pair here =>
      refine fresh.store .left pair ?_ ?_ rfl rfl rfl
      all_goals
        intro side
        simp [State.candidate, here, SyncPoint.reads, SyncPoint.copied]
  | @storeRight pair here =>
      refine fresh.store .right pair ?_ ?_ rfl rfl rfl
      all_goals
        intro side
        simp [State.candidate, here, SyncPoint.reads, SyncPoint.copied]
  | raise here => exact fresh.raise written here

theorem WriterMove.fresh (move : WriterMove state next events)
    (fresh : Fresh trace state) : Fresh (trace ++ events) next := by
  cases move <;> exact fresh.silent rfl rfl
    (fun side frame present => ⟨frame, present, le_refl _⟩) fresh.numbered

theorem MainMove.fresh (move : MainMove state next)
    (fresh : Fresh trace state) : Fresh (trace ++ []) next := by
  cases move with
  | stop here =>
      refine fresh.onward rfl rfl rfl ?_
      intro side frame present
      cases sync : state.sync with
      | waiting other =>
          cases other <;> cases side <;>
            simp_all [State.candidate, SyncPoint.reads, SyncPoint.copied]
      | _ =>
          cases side <;>
            simp_all [State.candidate, SyncPoint.reads, SyncPoint.copied]
  | postLeft | postRight | join =>
      exact fresh.onward rfl rfl rfl fun side frame present => present

theorem Move.fresh (move : Move state action next events)
    (fresh : Fresh trace state) (written : state.Written)
    (permitted : Awaits state action) : Fresh (trace ++ events) next := by
  cases move with
  | camera moved => exact moved.fresh fresh
  | sync moved => exact moved.fresh fresh written permitted
  | writer moved => exact moved.fresh fresh
  | main moved => exact moved.fresh fresh

end Steps

theorem initial_fresh : Fresh [] initial where
  increasing _ := List.Pairwise.nil
  known _ _ stored := absurd stored List.not_mem_nil
  newer _ _ _ _ stored := absurd stored List.not_mem_nil
  numbered side := by cases side <;> decide

/-- No frame is used twice as long as each token brings a new one.  That `id`
does not overflow is part of the model. -/
theorem stored_increasing {trace : List Event} {last : State}
    (steps : level1.RunWithin Awaits level1.start trace last) (side : Side) :
    (storedIds side trace).Pairwise (· < ·) := by
  have invariant : Fresh trace last ∧ last.Written :=
    steps.history (fun past state => Fresh past state ∧ state.Written)
      ⟨initial_fresh, initial_written⟩
      fun ⟨fresh, written⟩ permitted taken =>
        ⟨(step_move taken).fresh fresh written permitted,
          (step_move taken).written written⟩
  exact invariant.1.increasing side

section Runs

/-- One iteration of a camera. -/
def shot (side : Side) (timestamp : Timespec) : List Action :=
  List.replicate 6 (.camera side timestamp)

/-- One iteration of `sync_thread` that stores a pair. -/
def pairing : List Action := List.replicate 14 .sync

/-- Both cameras are on time and `sync_thread` keeps up with them. -/
private def keptUp : State × List Event :=
  (level1.execute Awaits initial
    (shot .left ⟨0, 0⟩ ++ shot .right ⟨0, 1000000⟩ ++ pairing ++
      shot .left ⟨0, 40000000⟩ ++ shot .right ⟨0, 41000000⟩ ++ pairing)).get
    (by decide +kernel)

/-- `sync_thread` is delayed by one period. -/
private def delayed : State × List Event :=
  (level1.execute (fun _ _ => True) initial
    (shot .left ⟨0, 0⟩ ++ shot .right ⟨0, 1000000⟩ ++
      shot .left ⟨0, 40000000⟩ ++ shot .right ⟨0, 41000000⟩ ++
      pairing ++ pairing)).get
    (by decide +kernel)

theorem stored_increasing_keptUp :
    storedIds .left keptUp.2 = [1, 2] ∧
      (storedIds .left keptUp.2).Pairwise (· < ·) :=
  ⟨by decide +kernel, stored_increasing
    (Machine.execute_get_runWithin _) .left⟩

/-- Both tokens of a camera lead to its second frame. -/
theorem frame_stored_twice :
    ∃ trace last, level1.Run level1.start trace last ∧
      last.isRunning = true ∧ storedIds .left trace = [2, 2] ∧
      storedIds .right trace = [2, 2] ∧
      ¬ (storedIds .left trace).Pairwise (· < ·) :=
  ⟨delayed.2, delayed.1, Machine.execute_get_runWithin _,
    by decide +kernel, by decide +kernel, by decide +kernel,
    by decide +kernel⟩

end Runs

end SysOp.Lab6.Level1
