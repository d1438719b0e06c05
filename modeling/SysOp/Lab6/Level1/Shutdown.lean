import SysOp.Lab6.Level1.Locks

/-!
# Shutdown of level one

`main` clears the flag before it posts the semaphores, so a token is left for
each wait that `sync_thread` has still ahead, and it waits once more at most.
-/

namespace SysOp.Lab6.Level1

open SysOp.Foundation

/-- `main` has made its last post. -/
def MainPoint.hasPosted : MainPoint → Side → Bool
  | .posting .right, .left => true
  | .joining, _ | .returned, _ => true
  | _, _ => false

/-- The running iteration has a `sem_wait` on the semaphore ahead. -/
def SyncPoint.awaits : SyncPoint → Side → Bool
  | .waiting .left, _ | .waiting .right, .right => true
  | _, _ => false

/-- The steps a camera can still take when the flag is cleared. -/
def CameraPoint.work : CameraPoint → Nat
  | .exited => 0
  | .checking => 1
  | .posting => 2
  | .unlocking => 3
  | .writingTimestamp => 4
  | .writingId => 5
  | .locking => 6

def SyncPoint.work : SyncPoint → Nat
  | .exited => 0
  | .checking | .testing => 1
  | .waiting .right | .unlockingSync => 2
  | .waiting .left | .raising _ => 3
  | .storingRight _ => 4
  | .storingLeft _ => 5
  | .lockingSync _ => 6
  | .comparing _ => 7
  | .unlockingCamera _ => 8
  | .copyingRight _ => 9
  | .copyingLeft => 10
  | .lockingCamera => 11

def WriterPoint.work : WriterPoint → Nat
  | .exited => 0
  | .checking => 1
  | .saving _ => 2
  | .unlocking _ => 3
  | .lowering _ => 4
  | .copyingRight _ => 5
  | .copyingLeft => 6
  | .looking => 7
  | .locking => 8

def MainPoint.work : MainPoint → Nat
  | .returned => 0
  | .joining => 1
  | .posting .right => 2
  | .posting .left => 3
  | .sleeping => 4

def State.work (state : State) : Nat :=
  (state.cameras.get .left).point.work +
    (state.cameras.get .right).point.work +
    state.sync.work + state.writer.work + state.main.work

structure Stopping (state : State) : Prop where
  announced : state.main ≠ .sleeping → state.isRunning = false
  posted : ∀ side, state.main.hasPosted side → state.sync.awaits side →
    state.camSems.get side ≠ 0

section Steps

variable {state next : State} {action : Action} {events : List Event}

theorem post_self (state : State) (side : Side) :
    (state.post side).camSems.get side ≠ 0 := by
  simp [State.post]

theorem post_of_ne_zero {side : Side} (posted : state.camSems.get side ≠ 0)
    (other : Side) : (state.post other).camSems.get side ≠ 0 := by
  simp only [State.post, Sides.get_set]
  split
  case isTrue => exact Nat.succ_ne_zero _
  case isFalse => exact posted

theorem CameraMove.stopping {side : Side} (move : CameraMove side state next)
    (stopping : Stopping state) : Stopping next := by
  cases move with
  | post here =>
      refine ⟨stopping.announced, fun other posted awaits => ?_⟩
      exact post_of_ne_zero (stopping.posted other posted awaits) side
  | _ => exact ⟨stopping.announced, stopping.posted⟩

theorem SyncMove.stopping (move : SyncMove state next events)
    (stopping : Stopping state) : Stopping next := by
  cases move with
  | begin here running =>
      have sleeping : state.main = .sleeping := by
        by_contra awake
        rw [stopping.announced awake] at running
        cases running
      refine ⟨stopping.announced, fun side posted => ?_⟩
      simp [sleeping, MainPoint.hasPosted] at posted
  | @take side here posted =>
      refine ⟨stopping.announced, fun other done awaits => ?_⟩
      have kept := stopping.posted other done
      cases side with
      | left =>
          cases other with
          | left => cases awaits
          | right => exact kept (by rw [here]; rfl)
      | right => cases other <;> cases awaits
  | _ =>
      refine ⟨stopping.announced, fun side posted awaits => ?_⟩
      cases side <;> cases awaits

theorem MainMove.stopping (move : MainMove state next)
    (stopping : Stopping state) : Stopping next := by
  have posted := stopping.posted
  cases move with
  | stop here =>
      exact ⟨fun _ => rfl, fun side done => by cases side <;> cases done⟩
  | postLeft here =>
      refine ⟨fun _ => stopping.announced (by rw [here]; simp), ?_⟩
      intro side done awaits
      cases side with
      | left => exact post_self state .left
      | right => cases done
  | postRight here =>
      refine ⟨fun _ => stopping.announced (by rw [here]; simp), ?_⟩
      intro side done awaits
      cases side with
      | left =>
          have before := posted .left (by rw [here]; rfl) awaits
          exact post_of_ne_zero before .right
      | right => exact post_self state .right
  | join here exited =>
      refine ⟨fun _ => stopping.announced (by rw [here]; simp), ?_⟩
      intro side done awaits
      exact posted side (by rw [here]; rfl) awaits

theorem Move.stopping (move : Move state action next events)
    (stopping : Stopping state) : Stopping next := by
  cases move with
  | camera moved => exact moved.stopping stopping
  | sync moved => exact moved.stopping stopping
  | writer moved =>
      cases moved <;> exact ⟨stopping.announced, stopping.posted⟩
  | main moved => exact moved.stopping stopping

/-- Nobody sets the flag again. -/
theorem Move.stopped (move : Move state action next events)
    (stopped : state.isRunning = false) : next.isRunning = false := by
  cases move with
  | main moved =>
      cases moved with
      | stop here => rfl
      | postLeft | postRight | join => exact stopped
  | camera moved | sync moved | writer moved => cases moved <;> exact stopped

theorem Move.hasPosted (move : Move state action next events) {side : Side}
    (posted : state.main.hasPosted side) : next.main.hasPosted side := by
  cases move with
  | main moved =>
      cases moved with
      | stop here | postLeft here | postRight here | join here =>
          rw [here] at posted
          cases side <;> first | rfl | cases posted
  | camera moved | sync moved | writer moved => cases moved <;> exact posted

/-- With the flag cleared a wait that is over does not come again. -/
theorem Move.takes (move : Move state action next events)
    (stopped : state.isRunning = false) (side : Side) :
    events.count (.took side) + (next.sync.awaits side).toNat ≤
      (state.sync.awaits side).toNat := by
  cases move with
  | camera moved | main moved =>
      cases moved <;> simp [State.setCamera, State.setSlot, State.post]
  | writer moved => cases moved <;> simp
  | sync moved =>
      cases moved with
      | begin here running =>
          rw [stopped] at running
          cases running
      | @take other here posted =>
          rw [here]
          cases other <;> cases side <;>
            simp [SyncPoint.awaits, SyncPoint.afterWait]
      | _ => cases side <;> simp [SyncPoint.awaits]

theorem work_setCamera {side : Side} {camera : Camera}
    (less : camera.point.work < (state.cameras.get side).point.work) :
    (state.setCamera side camera).work < state.work := by
  cases side <;>
    simp only [State.work, State.setCamera, Sides.set, Sides.get] at less ⊢ <;>
    omega

/-- With the flag cleared every thread comes nearer to its end. -/
theorem Move.work (move : Move state action next events)
    (stopped : state.isRunning = false) : next.work < state.work := by
  have never : ¬ state.isRunning = true := by simp [stopped]
  cases move with
  | @camera side timestamp next moved =>
      cases moved with
      | begin here running => exact absurd running never
      | leave here | lock here | writeId here | writeTimestamp here
      | unlock here | post here =>
          apply work_setCamera
          simp [CameraPoint.work, here, State.setSlot, State.post]
  | sync moved =>
      cases moved with
      | begin here running | pass here running => exact absurd running never
      | @take side here =>
          cases side <;>
            simp [State.work, SyncPoint.work, here, State.take,
              SyncPoint.afterWait]
      | _ here => simp [State.work, SyncPoint.work, here]
  | writer moved =>
      cases moved with
      | begin here running => exact absurd running never
      | _ here => simp [State.work, WriterPoint.work, here]
  | main moved =>
      cases moved with
      | _ here => simp [State.work, MainPoint.work, here, State.post]

end Steps

section Progress

variable {state : State}

/-- Somebody can take a step. -/
def State.Live (state : State) : Prop :=
  ∃ action, (step state action).isSome

theorem camera_live (side : Side)
    (here : (state.cameras.get side).point ≠ .exited)
    (free : (state.cameras.get side).point = .locking →
      state.cameraMutex = none) : state.Live := by
  refine ⟨.camera side ⟨0, 0⟩, ?_⟩
  simp only [step, cameraStep]
  split
  case h_2 locking =>
    rw [if_pos (free locking)]
    exact Option.isSome_some
  case h_7 exited => exact absurd exited here
  all_goals exact Option.isSome_some

theorem sync_live (here : state.sync ≠ .exited)
    (posted : ∀ side, state.sync = .waiting side →
      state.camSems.get side ≠ 0)
    (camera : state.sync = .lockingCamera → state.cameraMutex = none)
    (sync : ∀ pair, state.sync = .lockingSync pair →
      state.syncMutex = none) : state.Live := by
  refine ⟨.sync, ?_⟩
  simp only [step, syncStep]
  split
  case h_2 side waiting =>
    rw [if_neg (posted side waiting)]
    exact Option.isSome_some
  case h_4 locking =>
    rw [if_pos (camera locking)]
    exact Option.isSome_some
  case h_9 pair locking =>
    rw [if_pos (sync pair locking)]
    exact Option.isSome_some
  case h_14 exited => exact absurd exited here
  all_goals exact Option.isSome_some

theorem writer_live (here : state.writer ≠ .exited)
    (free : state.writer = .locking → state.syncMutex = none) :
    state.Live := by
  refine ⟨.writer, ?_⟩
  simp only [step, writerStep]
  split
  case h_2 locking =>
    rw [if_pos (free locking)]
    exact Option.isSome_some
  case h_9 exited => exact absurd exited here
  all_goals exact Option.isSome_some

/-- Whoever owns `camera_mutex` can go on. -/
theorem Locked.camera_owner_live {thread : Thread} (locked : Locked state)
    (owned : state.cameraMutex = some thread) : state.Live := by
  have inside := (locked.camera thread).mp owned
  cases thread with
  | camera side =>
      apply camera_live side
      · intro exited
        simp [State.insideCamera, exited, CameraPoint.inside] at inside
      · intro locking
        simp [State.insideCamera, locking, CameraPoint.inside] at inside
  | sync =>
      apply sync_live
      · intro exited
        simp [State.insideCamera, exited, SyncPoint.insideCamera] at inside
      · intro side waiting
        simp [State.insideCamera, waiting, SyncPoint.insideCamera] at inside
      · intro locking
        simp [State.insideCamera, locking, SyncPoint.insideCamera] at inside
      · intro pair locking
        simp [State.insideCamera, locking, SyncPoint.insideCamera] at inside
  | writer => cases inside

theorem Locked.sync_owner_live {thread : Thread} (locked : Locked state)
    (owned : state.syncMutex = some thread) : state.Live := by
  have inside := (locked.sync thread).mp owned
  cases thread with
  | camera side => cases inside
  | sync =>
      apply sync_live
      · intro exited
        simp [State.insideSync, exited, SyncPoint.insideSync] at inside
      · intro side waiting
        simp [State.insideSync, waiting, SyncPoint.insideSync] at inside
      · intro locking
        simp [State.insideSync, locking, SyncPoint.insideSync] at inside
      · intro pair locking
        simp [State.insideSync, locking, SyncPoint.insideSync] at inside
  | writer =>
      apply writer_live
      · intro exited
        simp [State.insideSync, exited, WriterPoint.inside] at inside
      · intro locking
        simp [State.insideSync, locking, WriterPoint.inside] at inside

theorem Locked.camera_free (locked : Locked state) (dead : ¬ state.Live) :
    state.cameraMutex = none := by
  cases owner : state.cameraMutex with
  | none => rfl
  | some thread => exact absurd (locked.camera_owner_live owner) dead

theorem Locked.sync_free (locked : Locked state) (dead : ¬ state.Live) :
    state.syncMutex = none := by
  cases owner : state.syncMutex with
  | none => rfl
  | some thread => exact absurd (locked.sync_owner_live owner) dead

/-- When nobody can go on after the posts, everybody has returned. -/
theorem returned_of_dead (locked : Locked state) (stopping : Stopping state)
    (posted : ∀ side, state.main.hasPosted side) (dead : ¬ state.Live) :
    state.Exited ∧ state.main = .returned := by
  have exited : state.Exited := by
    refine ⟨fun side => ?_, ?_, ?_⟩
    · by_contra here
      exact dead (camera_live side here fun _ => locked.camera_free dead)
    · by_contra here
      apply dead
      apply sync_live here
      · intro side waiting
        apply stopping.posted side (posted side)
        rw [waiting]
        cases side <;> rfl
      · exact fun _ => locked.camera_free dead
      · exact fun _ _ => locked.sync_free dead
    · by_contra here
      exact dead (writer_live here fun _ => locked.sync_free dead)
  refine ⟨exited, ?_⟩
  cases main : state.main with
  | returned => rfl
  | joining =>
      refine absurd ⟨.main, ?_⟩ dead
      simp [step, mainStep, main, exited]
  | sleeping =>
      have none := posted .left
      rw [main] at none
      cases none
  | posting side =>
      have none := posted .right
      rw [main] at none
      cases side <;> cases none

end Progress

section Runs

variable {trace later : List Event} {state last : State}

theorem initial_stopping : Stopping initial where
  announced awake := absurd rfl awake
  posted side done := by cases side <;> cases done

theorem run_stopping (steps : level1.Run level1.start trace state) :
    Stopping state :=
  steps.invariant Stopping initial_stopping
    fun stopping _ taken => (step_move taken).stopping stopping

/-- Over a run with the flag cleared the waits come to an end. -/
theorem run_takes (steps : level1.Run state later last)
    (stopped : state.isRunning = false) (side : Side) :
    last.isRunning = false ∧
      later.count (.took side) + (last.sync.awaits side).toNat ≤
        (state.sync.awaits side).toNat := by
  refine steps.history (fun past now => now.isRunning = false ∧
    past.count (.took side) + (now.sync.awaits side).toNat ≤
      (state.sync.awaits side).toNat) ⟨stopped, by simp⟩ ?_
  rintro past now action next events ⟨stopped, bounded⟩ _ taken
  have move := step_move taken
  refine ⟨move.stopped stopped, ?_⟩
  have single := move.takes stopped side
  rw [List.count_append]
  omega

/-- After the two posts `sync_thread` finds a token wherever it waits, it waits
at most once more on each semaphore, no run goes on for ever, and one that
stops has everybody returned. -/
theorem shutdown_completes (steps : level1.Run level1.start trace state)
    (posted : ∀ side, state.main.hasPosted side) :
    (∀ side, state.sync = .waiting side → state.camSems.get side ≠ 0) ∧
      (∀ {later last}, level1.Run state later last → ∀ side,
        later.count (.took side) ≤ 1) ∧
      (∀ {action next events}, step state action = some (next, events) →
        next.work < state.work ∧ ∀ side, next.main.hasPosted side) ∧
      ((∀ action, step state action = none) →
        state.sync = .exited ∧ state.main = .returned) := by
  have stopping := run_stopping steps
  have stopped : state.isRunning = false := by
    apply stopping.announced
    intro sleeping
    have none := posted .left
    rw [sleeping] at none
    cases none
  refine ⟨?_, ?_, ?_, ?_⟩
  · intro side waiting
    apply stopping.posted side (posted side)
    rw [waiting]
    cases side <;> rfl
  · intro later last after side
    have bounded := (run_takes after stopped side).2
    have most := Bool.toNat_le (state.sync.awaits side)
    omega
  · intro action next events taken
    have move := step_move taken
    exact ⟨move.work stopped, fun side => move.hasPosted (posted side)⟩
  · intro dead
    have returned := returned_of_dead (run_locked steps) stopping posted
      (by rintro ⟨action, enabled⟩; simp [dead] at enabled)
    exact ⟨returned.1.2.1, returned.2⟩

/-- `main` stops the program while `sync_thread` waits for its first frame. -/
private def stoppedEarly : State × List Event :=
  (level1.execute (fun _ _ => True) initial
    [.sync, .main, .main, .main]).get (by decide +kernel)

theorem shutdown_completes_waiting :
    stoppedEarly.1.sync = .waiting .left ∧
      ∀ side, stoppedEarly.1.sync = .waiting side →
        stoppedEarly.1.camSems.get side ≠ 0 :=
  ⟨by decide +kernel,
    (shutdown_completes (Machine.execute_get_runWithin _)
      (by intro side; cases side <;> decide +kernel)).1⟩

end Runs

end SysOp.Lab6.Level1
