import SysOp.Lab6.Level1.Moves

/-!
# The critical sections of level one

Who is inside the sections guarded by `camera_mutex` and `sync_mutex`, and what
`sync_thread` has written there.
-/

namespace SysOp.Lab6.Level1

open SysOp.Foundation

def CameraPoint.inside : CameraPoint → Bool
  | .writingId | .writingTimestamp | .unlocking => true
  | _ => false

def SyncPoint.insideCamera : SyncPoint → Bool
  | .copyingLeft | .copyingRight _ | .unlockingCamera _ => true
  | _ => false

def SyncPoint.insideSync : SyncPoint → Bool
  | .storingLeft _ | .storingRight _ | .raising _ | .unlockingSync => true
  | _ => false

def WriterPoint.inside : WriterPoint → Bool
  | .looking | .copyingLeft | .copyingRight _ | .lowering _ | .unlocking _ =>
      true
  | _ => false

def State.insideCamera (state : State) : Thread → Bool
  | .camera side => (state.cameras.get side).point.inside
  | .sync => state.sync.insideCamera
  | .writer => false

def State.insideSync (state : State) : Thread → Bool
  | .camera _ => false
  | .sync => state.sync.insideSync
  | .writer => state.writer.inside

/-- What the running iteration has written to the mailbox so far. -/
def SyncPoint.written : SyncPoint → Side → Option Frame
  | .storingRight pair, .left => some pair.left
  | .raising pair, side => some (pair.get side)
  | _, _ => none

/-- Nobody else writes to the mailbox in between. -/
def State.Written (state : State) : Prop :=
  ∀ side, ∀ frame ∈ state.sync.written side, state.syncFrames.get side = frame

structure Locked (state : State) : Prop where
  camera : state.cameraMutex.Guards fun thread => state.insideCamera thread
  sync : state.syncMutex.Guards fun thread => state.insideSync thread

section Steps

variable {state next : State} {action : Action} {events : List Event}

theorem insideCamera_setCamera (side : Side) (camera : Camera)
    (thread : Thread) :
    (state.setCamera side camera).insideCamera thread =
      if thread = .camera side then camera.point.inside
      else state.insideCamera thread := by
  cases thread with
  | camera other =>
      simp only [State.insideCamera, State.setCamera, Sides.get_set,
        Thread.camera.injEq]
      split <;> rfl
  | sync | writer => rfl

/-- A camera that does not pass a lock stays inside or outside. -/
theorem insideCamera_kept {side : Side} {camera : Camera}
    (same : camera.point.inside = (state.cameras.get side).point.inside)
    (thread : Thread) :
    (state.setCamera side camera).insideCamera thread ↔
      state.insideCamera thread := by
  rw [insideCamera_setCamera]
  split
  case isTrue self => rw [same, self, State.insideCamera]
  case isFalse => exact Iff.rfl

theorem CameraMove.locked {side : Side} (move : CameraMove side state next)
    (locked : Locked state) : Locked next := by
  refine ⟨?_, by cases move <;> exact locked.sync⟩
  have guards := locked.camera
  cases move with
  | begin here | leave here | writeId here | writeTimestamp here | post here =>
      apply guards.keep
      apply insideCamera_kept
      simp [CameraPoint.inside, here, State.setSlot, State.post]
  | lock here free =>
      apply guards.lock free
      intro thread
      rw [insideCamera_setCamera]
      split
      case isTrue self => simp [self, CameraPoint.inside]
      case isFalse different => simp [different, State.insideCamera]
  | unlock here =>
      have inside : state.insideCamera (.camera side) = true := by
        simp [State.insideCamera, here, CameraPoint.inside]
      apply guards.unlock inside
      intro thread
      rw [insideCamera_setCamera]
      split
      case isTrue self => simp [self, CameraPoint.inside]
      case isFalse different => simp [different, State.insideCamera]

theorem SyncMove.locked (move : SyncMove state next events)
    (locked : Locked state) : Locked next := by
  have camera := locked.camera
  have sync := locked.sync
  cases move with
  | lockCamera here free =>
      refine ⟨camera.lock free ?_, sync.keep ?_⟩ <;> intro thread <;>
        cases thread <;>
        simp [State.insideCamera, State.insideSync, SyncPoint.insideCamera,
          SyncPoint.insideSync, here]
  | unlockCamera here =>
      have inside : state.insideCamera .sync = true := by
        simp [State.insideCamera, SyncPoint.insideCamera, here]
      refine ⟨camera.unlock inside ?_, sync.keep ?_⟩ <;> intro thread <;>
        cases thread <;>
        simp [State.insideCamera, State.insideSync, SyncPoint.insideCamera,
          SyncPoint.insideSync, here]
  | lockSync here free =>
      refine ⟨camera.keep ?_, sync.lock free ?_⟩ <;> intro thread <;>
        cases thread <;>
        simp [State.insideCamera, State.insideSync, SyncPoint.insideCamera,
          SyncPoint.insideSync, here]
  | unlockSync here =>
      have inside : state.insideSync .sync = true := by
        simp [State.insideSync, SyncPoint.insideSync, here]
      refine ⟨camera.keep ?_, sync.unlock inside ?_⟩ <;> intro thread <;>
        cases thread <;>
        simp [State.insideCamera, State.insideSync, SyncPoint.insideCamera,
          SyncPoint.insideSync, here]
  | @take side here posted =>
      refine ⟨camera.keep ?_, sync.keep ?_⟩ <;> intro thread <;>
        cases side <;> cases thread <;>
        simp [State.insideCamera, State.insideSync, SyncPoint.insideCamera,
          SyncPoint.insideSync, SyncPoint.afterWait, State.take, here]
  | begin here | leave here | pass here | stop here | copyLeft here
  | copyRight here | accept here | discard here | storeLeft here
  | storeRight here | raise here =>
      refine ⟨camera.keep ?_, sync.keep ?_⟩ <;> intro thread <;>
        cases thread <;>
        simp [State.insideCamera, State.insideSync, SyncPoint.insideCamera,
          SyncPoint.insideSync, here]

theorem WriterMove.locked (move : WriterMove state next events)
    (locked : Locked state) : Locked next := by
  refine ⟨by cases move <;> exact locked.camera, ?_⟩
  have guards := locked.sync
  cases move with
  | lock here free =>
      apply guards.lock free
      intro thread
      cases thread <;> simp [State.insideSync, WriterPoint.inside, here]
  | unlockNew here | unlockOld here =>
      have inside : state.insideSync .writer = true := by
        simp [State.insideSync, WriterPoint.inside, here]
      apply guards.unlock inside
      intro thread
      cases thread <;> simp [State.insideSync, WriterPoint.inside]
  | begin here | leave here | find here | miss here | copyLeft here
  | copyRight here | lower here | save here =>
      apply guards.keep
      intro thread
      cases thread <;> simp [State.insideSync, WriterPoint.inside, here]

theorem Move.locked (move : Move state action next events)
    (locked : Locked state) : Locked next := by
  cases move with
  | camera moved => exact moved.locked locked
  | sync moved => exact moved.locked locked
  | writer moved => exact moved.locked locked
  | main moved =>
      cases moved <;> exact ⟨locked.camera, locked.sync⟩

theorem SyncMove.written (move : SyncMove state next events)
    (written : state.Written) : next.Written := by
  intro side frame present
  cases move with
  | storeLeft here =>
      cases side with
      | left => exact Option.mem_some_iff.mp present
      | right => cases present
  | storeRight here =>
      cases side with
      | left =>
          apply written .left
          rw [here]
          exact present
      | right => exact Option.mem_some_iff.mp present
  | @take other => cases other <;> cases side <;> cases present
  | _ => cases side <;> cases present

theorem Move.written (move : Move state action next events)
    (written : state.Written) : next.Written := by
  cases move with
  | sync moved => exact moved.written written
  | camera moved | writer moved | main moved => cases moved <;> exact written

end Steps

theorem initial_written : initial.Written := by
  intro side frame present
  cases side <;> cases present

theorem initial_locked : Locked initial where
  camera thread := by
    cases thread with
    | camera side =>
        cases side <;>
          simp [initial, State.insideCamera, CameraPoint.inside, Sides.get]
    | sync | writer =>
        simp [initial, State.insideCamera, SyncPoint.insideCamera]
  sync thread := by
    cases thread <;>
      simp [initial, State.insideSync, SyncPoint.insideSync,
        WriterPoint.inside]

theorem run_locked {trace : List Event} {state : State}
    (steps : level1.Run level1.start trace state) : Locked state :=
  steps.invariant Locked initial_locked
    fun locked _ taken => (step_move taken).locked locked

end SysOp.Lab6.Level1
