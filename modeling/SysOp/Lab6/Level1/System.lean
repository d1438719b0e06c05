import SysOp.Foundation.Machine
import SysOp.Foundation.Mutex
import SysOp.Lab6.Pipeline

/-!
# Level one: slots, semaphores and a mailbox

Each camera overwrites one slot and posts its semaphore.  `sync_thread` waits
for both semaphores, reads both slots and leaves a matching pair where
`image_writer_thread` looks for it.  `main` ends the program.

A step is one lock, one unlock, one semaphore operation, one test, or one
access to a shared variable.  The two threads around `current_robot_state`
share only `is_running` with these and are left out.
-/

namespace SysOp.Lab6.Level1

open SysOp.Foundation

deriving instance DecidableEq for Sides

inductive Thread where
  | camera (side : Side)
  | sync
  | writer
  deriving DecidableEq

inductive CameraPoint where
  | checking
  | locking
  | writingId
  | writingTimestamp
  | unlocking
  | posting
  | exited
  deriving DecidableEq

/-- `nextId` is the variable `id`, which does not overflow here: frame ids are
integers without bound. -/
structure Camera where
  nextId : Int
  point : CameraPoint
  deriving DecidableEq

/-- A pair of frames is what the local variables `left` and `right` hold. -/
inductive SyncPoint where
  | checking
  | waiting (side : Side)
  | testing
  | lockingCamera
  | copyingLeft
  | copyingRight (left : Frame)
  | unlockingCamera (pair : Sides Frame)
  | comparing (pair : Sides Frame)
  | lockingSync (pair : Sides Frame)
  | storingLeft (pair : Sides Frame)
  | storingRight (pair : Sides Frame)
  | raising (pair : Sides Frame)
  | unlockingSync
  | exited
  deriving DecidableEq

inductive WriterPoint where
  | checking
  | locking
  | looking
  | copyingLeft
  | copyingRight (left : Frame)
  | lowering (pair : Sides Frame)
  | unlocking (pair : Option (Sides Frame))
  | saving (pair : Sides Frame)
  | exited
  deriving DecidableEq

inductive MainPoint where
  | sleeping
  | posting (side : Side)
  | joining
  | returned
  deriving DecidableEq

/-- `slots` are `left_camera_frame` and `right_camera_frame`, `camSems` their
semaphores, and `syncFrames` are `sync_left_frame` and `sync_right_frame`. -/
structure State where
  isRunning : Bool
  slots : Sides Frame
  cameraMutex : Mutex Thread
  camSems : Sides Nat
  syncFrames : Sides Frame
  hasNewSyncPair : Bool
  syncMutex : Mutex Thread
  cameras : Sides Camera
  sync : SyncPoint
  writer : WriterPoint
  main : MainPoint

inductive Event where
  | took (side : Side)
  | stored (pair : Sides Frame)
  | looked
  | saved (pair : Sides Frame)
  deriving DecidableEq

/-- A camera step reads the clock when it writes the timestamp. -/
inductive Action where
  | camera (side : Side) (timestamp : Timespec)
  | sync
  | writer
  | main

namespace State

def setCamera (state : State) (side : Side) (camera : Camera) : State :=
  { state with cameras := state.cameras.set side camera }

def setSlot (state : State) (side : Side) (frame : Frame) : State :=
  { state with slots := state.slots.set side frame }

/-- `sem_post`. -/
def post (state : State) (side : Side) : State :=
  { state with
    camSems := state.camSems.set side (state.camSems.get side + 1) }

/-- `sem_wait` on a semaphore that is not zero. -/
def take (state : State) (side : Side) : State :=
  { state with
    camSems := state.camSems.set side (state.camSems.get side - 1) }

end State

/-- `left_camera_thread` and `right_camera_thread`. -/
def cameraStep (side : Side) (timestamp : Timespec) (state : State) :
    Option (State × List Event) :=
  let camera := state.cameras.get side
  let goTo (state : State) (point : CameraPoint) :=
    some (state.setCamera side { camera with point }, [])
  match camera.point with
  | .checking => goTo state (if state.isRunning then .locking else .exited)
  | .locking =>
      if state.cameraMutex = none then
        goTo { state with cameraMutex := some (.camera side) } .writingId
      else none
  | .writingId =>
      let slot := { state.slots.get side with frameId := camera.nextId }
      some ((state.setSlot side slot).setCamera side
        { nextId := camera.nextId + 1, point := .writingTimestamp }, [])
  | .writingTimestamp =>
      let slot := { state.slots.get side with timestamp }
      goTo (state.setSlot side slot) .unlocking
  | .unlocking => goTo { state with cameraMutex := none } .posting
  | .posting => goTo (state.post side) .checking
  | .exited => none

/-- The wait for the right camera follows the one for the left. -/
def SyncPoint.afterWait : Side → SyncPoint
  | .left => .waiting .right
  | .right => .testing

def syncStep (state : State) : Option (State × List Event) :=
  let goTo (state : State) (sync : SyncPoint) := some ({ state with sync }, [])
  match state.sync with
  | .checking =>
      goTo state (if state.isRunning then .waiting .left else .exited)
  | .waiting side =>
      if state.camSems.get side = 0 then none
      else
        some ({ state.take side with sync := .afterWait side }, [.took side])
  | .testing => goTo state (if state.isRunning then .lockingCamera else .exited)
  | .lockingCamera =>
      if state.cameraMutex = none then
        goTo { state with cameraMutex := some .sync } .copyingLeft
      else none
  | .copyingLeft => goTo state (.copyingRight state.slots.left)
  | .copyingRight left =>
      goTo state (.unlockingCamera ⟨left, state.slots.right⟩)
  | .unlockingCamera pair =>
      goTo { state with cameraMutex := none } (.comparing pair)
  | .comparing pair =>
      goTo state
        (if Matches pair.left pair.right then .lockingSync pair else .checking)
  | .lockingSync pair =>
      if state.syncMutex = none then
        goTo { state with syncMutex := some .sync } (.storingLeft pair)
      else none
  | .storingLeft pair =>
      goTo { state with syncFrames := { state.syncFrames with left := pair.left } }
        (.storingRight pair)
  | .storingRight pair =>
      goTo
        { state with syncFrames := { state.syncFrames with right := pair.right } }
        (.raising pair)
  | .raising pair =>
      some ({ state with hasNewSyncPair := true, sync := .unlockingSync },
        [.stored pair])
  | .unlockingSync => goTo { state with syncMutex := none } .checking
  | .exited => none

/-- `image_writer_thread`; saving a pair writes its two files. -/
def writerStep (state : State) : Option (State × List Event) :=
  let goTo (state : State) (writer : WriterPoint) :=
    some ({ state with writer }, [])
  match state.writer with
  | .checking => goTo state (if state.isRunning then .locking else .exited)
  | .locking =>
      if state.syncMutex = none then
        goTo { state with syncMutex := some .writer } .looking
      else none
  | .looking =>
      some ({ state with
        writer := if state.hasNewSyncPair then .copyingLeft
          else .unlocking none }, [.looked])
  | .copyingLeft => goTo state (.copyingRight state.syncFrames.left)
  | .copyingRight left =>
      goTo state (.lowering ⟨left, state.syncFrames.right⟩)
  | .lowering pair =>
      goTo { state with hasNewSyncPair := false } (.unlocking (some pair))
  | .unlocking pair =>
      goTo { state with syncMutex := none }
        (match pair with
        | some pair => .saving pair
        | none => .checking)
  | .saving pair =>
      some ({ state with writer := .checking }, [.saved pair])
  | .exited => none

/-- The threads `main` joins have returned. -/
def State.Exited (state : State) : Prop :=
  (∀ side, (state.cameras.get side).point = .exited) ∧
    state.sync = .exited ∧ state.writer = .exited

instance (state : State) : Decidable state.Exited :=
  decidable_of_iff
    (((state.cameras.get .left).point = .exited ∧
        (state.cameras.get .right).point = .exited) ∧
      state.sync = .exited ∧ state.writer = .exited)
    (and_congr_left' ⟨fun both side => by cases side; exacts [both.1, both.2],
      fun every => ⟨every .left, every .right⟩⟩)

def mainStep (state : State) : Option (State × List Event) :=
  match state.main with
  | .sleeping =>
      some ({ state with isRunning := false, main := .posting .left }, [])
  | .posting .left =>
      some ({ state.post .left with main := .posting .right }, [])
  | .posting .right => some ({ state.post .right with main := .joining }, [])
  | .joining =>
      if state.Exited then some ({ state with main := .returned }, []) else none
  | .returned => none

def step (state : State) : Action → Option (State × List Event)
  | .camera side timestamp => cameraStep side timestamp state
  | .sync => syncStep state
  | .writer => writerStep state
  | .main => mainStep state

/-- Static memory is zero. -/
def initial : State where
  isRunning := true
  slots := ⟨default, default⟩
  cameraMutex := none
  camSems := ⟨0, 0⟩
  syncFrames := ⟨default, default⟩
  hasNewSyncPair := false
  syncMutex := none
  cameras := ⟨⟨1, .checking⟩, ⟨1, .checking⟩⟩
  sync := .checking
  writer := .checking
  main := .sleeping

def level1 : Machine State Action Event where
  start := initial
  step := step

end SysOp.Lab6.Level1
