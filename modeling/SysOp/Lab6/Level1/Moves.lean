import SysOp.Lab6.Level1.System

/-!
# What a step of level one can be

The inversion of `step`, thread by thread.
-/

namespace SysOp.Lab6.Level1

open SysOp.Foundation

inductive CameraMove (side : Side) (state : State) : State → Prop where
  | begin (here : (state.cameras.get side).point = .checking)
      (running : state.isRunning = true) :
      CameraMove side state
        (state.setCamera side { state.cameras.get side with point := .locking })
  | leave (here : (state.cameras.get side).point = .checking)
      (stopped : state.isRunning = false) :
      CameraMove side state
        (state.setCamera side { state.cameras.get side with point := .exited })
  | lock (here : (state.cameras.get side).point = .locking)
      (free : state.cameraMutex = none) :
      CameraMove side state
        ({ state with cameraMutex := some (.camera side) }.setCamera side
          { state.cameras.get side with point := .writingId })
  | writeId (here : (state.cameras.get side).point = .writingId) :
      CameraMove side state
        ((state.setSlot side
            { state.slots.get side with
              frameId := (state.cameras.get side).nextId }).setCamera side
          { nextId := (state.cameras.get side).nextId + 1
            point := .writingTimestamp })
  | writeTimestamp {timestamp : Timespec}
      (here : (state.cameras.get side).point = .writingTimestamp) :
      CameraMove side state
        ((state.setSlot side
            { state.slots.get side with timestamp }).setCamera side
          { state.cameras.get side with point := .unlocking })
  | unlock (here : (state.cameras.get side).point = .unlocking) :
      CameraMove side state
        ({ state with cameraMutex := none }.setCamera side
          { state.cameras.get side with point := .posting })
  | post (here : (state.cameras.get side).point = .posting) :
      CameraMove side state
        ((state.post side).setCamera side
          { state.cameras.get side with point := .checking })

inductive SyncMove (state : State) : State → List Event → Prop where
  | begin (here : state.sync = .checking) (running : state.isRunning = true) :
      SyncMove state { state with sync := .waiting .left } []
  | leave (here : state.sync = .checking) (stopped : state.isRunning = false) :
      SyncMove state { state with sync := .exited } []
  | take {side : Side} (here : state.sync = .waiting side)
      (posted : state.camSems.get side ≠ 0) :
      SyncMove state { state.take side with sync := .afterWait side }
        [.took side]
  | pass (here : state.sync = .testing) (running : state.isRunning = true) :
      SyncMove state { state with sync := .lockingCamera } []
  | stop (here : state.sync = .testing) (stopped : state.isRunning = false) :
      SyncMove state { state with sync := .exited } []
  | lockCamera (here : state.sync = .lockingCamera)
      (free : state.cameraMutex = none) :
      SyncMove state
        { state with cameraMutex := some .sync, sync := .copyingLeft } []
  | copyLeft (here : state.sync = .copyingLeft) :
      SyncMove state { state with sync := .copyingRight state.slots.left } []
  | copyRight {left : Frame} (here : state.sync = .copyingRight left) :
      SyncMove state
        { state with sync := .unlockingCamera ⟨left, state.slots.right⟩ } []
  | unlockCamera {pair : Sides Frame} (here : state.sync = .unlockingCamera pair) :
      SyncMove state
        { state with cameraMutex := none, sync := .comparing pair } []
  | accept {pair : Sides Frame} (here : state.sync = .comparing pair)
      (matching : Matches pair.left pair.right) :
      SyncMove state { state with sync := .lockingSync pair } []
  | discard {pair : Sides Frame} (here : state.sync = .comparing pair)
      (mismatched : ¬ Matches pair.left pair.right) :
      SyncMove state { state with sync := .checking } []
  | lockSync {pair : Sides Frame} (here : state.sync = .lockingSync pair)
      (free : state.syncMutex = none) :
      SyncMove state
        { state with syncMutex := some .sync, sync := .storingLeft pair } []
  | storeLeft {pair : Sides Frame} (here : state.sync = .storingLeft pair) :
      SyncMove state
        { state with
          syncFrames := { state.syncFrames with left := pair.left }
          sync := .storingRight pair } []
  | storeRight {pair : Sides Frame} (here : state.sync = .storingRight pair) :
      SyncMove state
        { state with
          syncFrames := { state.syncFrames with right := pair.right }
          sync := .raising pair } []
  | raise {pair : Sides Frame} (here : state.sync = .raising pair) :
      SyncMove state
        { state with hasNewSyncPair := true, sync := .unlockingSync }
        [.stored pair]
  | unlockSync (here : state.sync = .unlockingSync) :
      SyncMove state { state with syncMutex := none, sync := .checking } []

inductive WriterMove (state : State) : State → List Event → Prop where
  | begin (here : state.writer = .checking) (running : state.isRunning = true) :
      WriterMove state { state with writer := .locking } []
  | leave (here : state.writer = .checking)
      (stopped : state.isRunning = false) :
      WriterMove state { state with writer := .exited } []
  | lock (here : state.writer = .locking) (free : state.syncMutex = none) :
      WriterMove state
        { state with syncMutex := some .writer, writer := .looking } []
  | find (here : state.writer = .looking) (new : state.hasNewSyncPair = true) :
      WriterMove state { state with writer := .copyingLeft } [.looked]
  | miss (here : state.writer = .looking)
      (old : state.hasNewSyncPair = false) :
      WriterMove state { state with writer := .unlocking none } [.looked]
  | copyLeft (here : state.writer = .copyingLeft) :
      WriterMove state
        { state with writer := .copyingRight state.syncFrames.left } []
  | copyRight {left : Frame} (here : state.writer = .copyingRight left) :
      WriterMove state
        { state with writer := .lowering ⟨left, state.syncFrames.right⟩ } []
  | lower {pair : Sides Frame} (here : state.writer = .lowering pair) :
      WriterMove state
        { state with
          hasNewSyncPair := false, writer := .unlocking (some pair) } []
  | unlockNew {pair : Sides Frame}
      (here : state.writer = .unlocking (some pair)) :
      WriterMove state
        { state with syncMutex := none, writer := .saving pair } []
  | unlockOld (here : state.writer = .unlocking none) :
      WriterMove state
        { state with syncMutex := none, writer := .checking } []
  | save {pair : Sides Frame} (here : state.writer = .saving pair) :
      WriterMove state { state with writer := .checking } [.saved pair]

inductive MainMove (state : State) : State → Prop where
  | stop (here : state.main = .sleeping) :
      MainMove state { state with isRunning := false, main := .posting .left }
  | postLeft (here : state.main = .posting .left) :
      MainMove state { state.post .left with main := .posting .right }
  | postRight (here : state.main = .posting .right) :
      MainMove state { state.post .right with main := .joining }
  | join (here : state.main = .joining) (exited : state.Exited) :
      MainMove state { state with main := .returned }

inductive Move (state : State) : Action → State → List Event → Prop where
  | camera {side : Side} {timestamp : Timespec} {next : State}
      (moved : CameraMove side state next) :
      Move state (.camera side timestamp) next []
  | sync {next : State} {events : List Event}
      (moved : SyncMove state next events) :
      Move state .sync next events
  | writer {next : State} {events : List Event}
      (moved : WriterMove state next events) :
      Move state .writer next events
  | main {next : State} (moved : MainMove state next) :
      Move state .main next []

section Steps

variable {state next : State} {events : List Event}

theorem cameraStep_move {side : Side} {timestamp : Timespec}
    (taken : cameraStep side timestamp state = some (next, events)) :
    CameraMove side state next ∧ events = [] := by
  simp only [cameraStep] at taken
  split at taken
  case h_1 here =>
    split at taken
    case isTrue running =>
      cases taken
      exact ⟨.begin here running, rfl⟩
    case isFalse stopped =>
      cases taken
      exact ⟨.leave here (by simpa using stopped), rfl⟩
  case h_2 here =>
    split at taken
    case isTrue free =>
      cases taken
      exact ⟨.lock here free, rfl⟩
    case isFalse => cases taken
  case h_3 here =>
    cases taken
    exact ⟨.writeId here, rfl⟩
  case h_4 here =>
    cases taken
    exact ⟨.writeTimestamp here, rfl⟩
  case h_5 here =>
    cases taken
    exact ⟨.unlock here, rfl⟩
  case h_6 here =>
    cases taken
    exact ⟨.post here, rfl⟩
  case h_7 => cases taken

theorem syncStep_move (taken : syncStep state = some (next, events)) :
    SyncMove state next events := by
  simp only [syncStep] at taken
  split at taken
  case h_1 here =>
    split at taken
    case isTrue running =>
      cases taken
      exact .begin here running
    case isFalse stopped =>
      cases taken
      exact .leave here (by simpa using stopped)
  case h_2 side here =>
    split at taken
    case isTrue => cases taken
    case isFalse posted =>
      cases taken
      exact .take here posted
  case h_3 here =>
    split at taken
    case isTrue running =>
      cases taken
      exact .pass here running
    case isFalse stopped =>
      cases taken
      exact .stop here (by simpa using stopped)
  case h_4 here =>
    split at taken
    case isTrue free =>
      cases taken
      exact .lockCamera here free
    case isFalse => cases taken
  case h_5 here =>
    cases taken
    exact .copyLeft here
  case h_6 left here =>
    cases taken
    exact .copyRight here
  case h_7 pair here =>
    cases taken
    exact .unlockCamera here
  case h_8 pair here =>
    split at taken
    case isTrue matching =>
      cases taken
      exact .accept here matching
    case isFalse mismatched =>
      cases taken
      exact .discard here mismatched
  case h_9 pair here =>
    split at taken
    case isTrue free =>
      cases taken
      exact .lockSync here free
    case isFalse => cases taken
  case h_10 pair here =>
    cases taken
    exact .storeLeft here
  case h_11 pair here =>
    cases taken
    exact .storeRight here
  case h_12 pair here =>
    cases taken
    exact .raise here
  case h_13 here =>
    cases taken
    exact .unlockSync here
  case h_14 => cases taken

theorem writerStep_move (taken : writerStep state = some (next, events)) :
    WriterMove state next events := by
  simp only [writerStep] at taken
  split at taken
  case h_1 here =>
    split at taken
    case isTrue running =>
      cases taken
      exact .begin here running
    case isFalse stopped =>
      cases taken
      exact .leave here (by simpa using stopped)
  case h_2 here =>
    split at taken
    case isTrue free =>
      cases taken
      exact .lock here free
    case isFalse => cases taken
  case h_3 here =>
    split at taken
    case isTrue new =>
      cases taken
      exact .find here new
    case isFalse old =>
      cases taken
      exact .miss here (by simpa using old)
  case h_4 here =>
    cases taken
    exact .copyLeft here
  case h_5 left here =>
    cases taken
    exact .copyRight here
  case h_6 pair here =>
    cases taken
    exact .lower here
  case h_7 pair here =>
    cases pair with
    | some pair =>
        cases taken
        exact .unlockNew here
    | none =>
        cases taken
        exact .unlockOld here
  case h_8 pair here =>
    cases taken
    exact .save here
  case h_9 => cases taken

theorem mainStep_move (taken : mainStep state = some (next, events)) :
    MainMove state next ∧ events = [] := by
  unfold mainStep at taken
  split at taken
  case h_1 here =>
    cases taken
    exact ⟨.stop here, rfl⟩
  case h_2 here =>
    cases taken
    exact ⟨.postLeft here, rfl⟩
  case h_3 here =>
    cases taken
    exact ⟨.postRight here, rfl⟩
  case h_4 here =>
    split at taken
    case isTrue exited =>
      cases taken
      exact ⟨.join here exited, rfl⟩
    case isFalse => cases taken
  case h_5 => cases taken

theorem step_move {action : Action}
    (taken : step state action = some (next, events)) :
    Move state action next events := by
  cases action with
  | camera side timestamp =>
      obtain ⟨moved, rfl⟩ := cameraStep_move taken
      exact .camera moved
  | sync => exact .sync (syncStep_move taken)
  | writer => exact .writer (writerStep_move taken)
  | main =>
      obtain ⟨moved, rfl⟩ := mainStep_move taken
      exact .main moved

end Steps

end SysOp.Lab6.Level1
