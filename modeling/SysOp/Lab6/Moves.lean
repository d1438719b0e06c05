import SysOp.Lab6.Pipeline

/-!
# What a step of the pipeline can be

The inversion of `step`, first for the part two threads share: the loop of a
reader up to its second `buffer_pop`.
-/

namespace SysOp.Lab6

open SysOp.Foundation

inductive ReadMove {Work : Type} (stage : Stage) (work : Frame → Frame → Work)
    (isRunning : Bool) (bufs : Sides FrameBuffer) :
    Reader Work → Sides FrameBuffer → Reader Work → List Event → Prop where
  | begin (running : isRunning = true) :
      ReadMove stage work isRunning bufs .checking bufs
        (.poppingLeft .entering) []
  | leave (stopped : isRunning = false) :
      ReadMove stage work isRunning bufs .checking bufs .exited []
  | waitLeft (empty : bufs.left.count = 0) (running : isRunning = true) :
      ReadMove stage work isRunning bufs (.poppingLeft .entering) bufs
        (.poppingLeft .deciding) []
  | abortLeft (empty : bufs.left.count = 0) (stopped : isRunning = false) :
      ReadMove stage work isRunning bufs (.poppingLeft .entering) bufs
        .exited []
  | popLeft (stored : bufs.left.count ≠ 0) :
      ReadMove stage work isRunning bufs (.poppingLeft .entering)
        { bufs with left := bufs.left.pop }
        (.poppingRight bufs.left.front .entering)
        [.popped stage .left bufs.left.front]
  | sleepLeft :
      ReadMove stage work isRunning bufs (.poppingLeft .deciding) bufs
        (.poppingLeft .asleep) []
  | waitRight {first : Frame} (empty : bufs.right.count = 0)
      (running : isRunning = true) :
      ReadMove stage work isRunning bufs (.poppingRight first .entering) bufs
        (.poppingRight first .deciding) []
  | abortRight {first : Frame} (empty : bufs.right.count = 0)
      (stopped : isRunning = false) :
      ReadMove stage work isRunning bufs (.poppingRight first .entering) bufs
        .exited []
  | popRight {first : Frame} (stored : bufs.right.count ≠ 0) :
      ReadMove stage work isRunning bufs (.poppingRight first .entering)
        { bufs with right := bufs.right.pop }
        (.working (work first bufs.right.front))
        [.popped stage .right bufs.right.front]
  | sleepRight {first : Frame} :
      ReadMove stage work isRunning bufs (.poppingRight first .deciding) bufs
        (.poppingRight first .asleep) []

/-- The events of a push. -/
def pushEvents (stage : Stage) (side : Side) (buf : FrameBuffer)
    (frame : Frame) : List Event :=
  buf.evicted.map (.dropped stage side) ++ [.pushed stage side frame]

inductive Move (state : State) : Action → State → List Event → Prop where
  | create {side : Side} {timestamp : Timespec}
      (here : (state.cameras.get side).point = .checking)
      (running : state.isRunning = true) :
      Move state (.camera side timestamp)
        { state with
          cameras := state.cameras.set side
            { nextId := (state.cameras.get side).nextId + 1
              point := .pushing
                ⟨(state.cameras.get side).nextId, timestamp⟩ } } []
  | stop {side : Side} {timestamp : Timespec}
      (here : (state.cameras.get side).point = .checking)
      (stopped : state.isRunning = false) :
      Move state (.camera side timestamp)
        { state with
          cameras := state.cameras.set side
            { state.cameras.get side with point := .exited } } []
  | shoot {side : Side} {timestamp : Timespec} {frame : Frame}
      (here : (state.cameras.get side).point = .pushing frame)
      (free : state.sync.waitOn side ≠ some .deciding) :
      Move state (.camera side timestamp)
        { state with
          camBufs := state.camBufs.set side
            ((state.camBufs.get side).push frame)
          sync := state.sync.wake side
          cameras := state.cameras.set side
            { state.cameras.get side with point := .checking } }
        (pushEvents .cam side (state.camBufs.get side) frame)
  | syncRead {camBufs : Sides FrameBuffer} {sync : Reader SyncWork}
      {events : List Event}
      (moved : ReadMove .cam .comparing state.isRunning state.camBufs
        state.sync camBufs sync events) :
      Move state .sync { state with camBufs, sync } events
  | pair {left right : Frame}
      (here : state.sync = .working (.comparing left right))
      (matching : Matches left right) :
      Move state .sync
        { state with sync := .working (.pushingLeft left right) }
        [.matched left right]
  | discard {left right : Frame}
      (here : state.sync = .working (.comparing left right))
      (mismatched : ¬ Matches left right) :
      Move state .sync { state with sync := .checking } []
  | forwardLeft {left right : Frame}
      (here : state.sync = .working (.pushingLeft left right))
      (free : state.writer.waitOn .left ≠ some .deciding) :
      Move state .sync
        { state with
          syncBufs := state.syncBufs.set .left
            ((state.syncBufs.get .left).push left)
          writer := state.writer.wake .left
          sync := .working (.pushingRight right) }
        (pushEvents .sync .left (state.syncBufs.get .left) left)
  | forwardRight {right : Frame}
      (here : state.sync = .working (.pushingRight right))
      (free : state.writer.waitOn .right ≠ some .deciding) :
      Move state .sync
        { state with
          syncBufs := state.syncBufs.set .right
            ((state.syncBufs.get .right).push right)
          writer := state.writer.wake .right
          sync := .checking }
        (pushEvents .sync .right (state.syncBufs.get .right) right)
  | writerRead {syncBufs : Sides FrameBuffer} {writer : Reader WriterWork}
      {events : List Event}
      (moved : ReadMove .sync .saving state.isRunning state.syncBufs
        state.writer syncBufs writer events) :
      Move state .writer { state with syncBufs, writer } events
  | save {left right : Frame}
      (here : state.writer = .working (.saving left right)) :
      Move state .writer { state with writer := .checking }
        [.saved left right]
  | interrupt (here : state.handler = .ready) :
      Move state .handler
        { state with
          isRunning := false, handler := .broadcasting .cam .left } []
  | broadcast {stage : Stage} {side : Side}
      (here : state.handler = .broadcasting stage side) :
      Move state .handler
        { state.wake stage side with handler := .after stage side } []
  | spurious {stage : Stage} {side : Side}
      (asleep : state.waitOn stage side = some .asleep) :
      Move state (.spurious stage side) (state.wake stage side) []

theorem read_move {Work : Type} {stage : Stage} {work : Frame → Frame → Work}
    {isRunning : Bool} {bufs next : Sides FrameBuffer}
    {reader after : Reader Work} {events : List Event}
    (taken : reader.read stage work isRunning bufs =
      some (next, after, events)) :
    ReadMove stage work isRunning bufs reader next after events := by
  cases reader with
  | checking =>
      cases isRunning with
      | true =>
          cases taken
          exact .begin rfl
      | false =>
          cases taken
          exact .leave rfl
  | poppingLeft wait =>
      cases wait with
      | entering =>
          by_cases empty : bufs.left.count = 0
          · simp only [Reader.read, bufferPop, empty, if_true] at taken
            cases isRunning with
            | true =>
                cases taken
                exact .waitLeft empty rfl
            | false =>
                cases taken
                exact .abortLeft empty rfl
          · simp only [Reader.read, bufferPop, empty, if_false] at taken
            cases taken
            exact .popLeft empty
      | deciding =>
          cases taken
          exact .sleepLeft
      | asleep => cases taken
  | poppingRight first wait =>
      cases wait with
      | entering =>
          by_cases empty : bufs.right.count = 0
          · simp only [Reader.read, bufferPop, empty, if_true] at taken
            cases isRunning with
            | true =>
                cases taken
                exact .waitRight empty rfl
            | false =>
                cases taken
                exact .abortRight empty rfl
          · simp only [Reader.read, bufferPop, empty, if_false] at taken
            cases taken
            exact .popRight empty
      | deciding =>
          cases taken
          exact .sleepRight
      | asleep => cases taken
  | working work => cases taken
  | exited => cases taken

theorem bufferPush_eq_some {Work : Type} {stage : Stage}
    {bufs next : Sides FrameBuffer} {reader after : Reader Work} {side : Side}
    {frame : Frame} {events : List Event}
    (taken : bufferPush stage bufs reader side frame =
      some (next, after, events)) :
    reader.waitOn side ≠ some .deciding ∧
      next = bufs.set side ((bufs.get side).push frame) ∧
      after = reader.wake side ∧
      events = pushEvents stage side (bufs.get side) frame := by
  unfold bufferPush at taken
  split at taken
  case isTrue => cases taken
  case isFalse free =>
    cases taken
    exact ⟨free, rfl, rfl, rfl⟩

section Steps

variable {state next : State} {events : List Event}

theorem cameraStep_move {side : Side} {timestamp : Timespec}
    (taken : cameraStep side timestamp state = some (next, events)) :
    Move state (.camera side timestamp) next events := by
  simp only [cameraStep] at taken
  split at taken
  case h_1 here =>
    split at taken
    case isTrue running =>
      cases taken
      exact .create here running
    case isFalse stopped =>
      cases taken
      exact .stop here (by simpa using stopped)
  case h_2 frame here =>
    simp only [Option.map_eq_some_iff, Prod.exists, Prod.mk.injEq] at taken
    obtain ⟨_, _, _, pushed, rfl, rfl⟩ := taken
    obtain ⟨free, rfl, rfl, rfl⟩ := bufferPush_eq_some pushed
    exact .shoot here free
  case h_3 => cases taken

theorem syncStep_move (taken : syncStep state = some (next, events)) :
    Move state .sync next events := by
  unfold syncStep at taken
  split at taken
  case h_1 left right here =>
    split at taken
    case isTrue matching =>
      cases taken
      exact .pair here matching
    case isFalse mismatched =>
      cases taken
      exact .discard here mismatched
  case h_2 left right here =>
    simp only [Option.map_eq_some_iff, Prod.exists, Prod.mk.injEq] at taken
    obtain ⟨_, _, _, pushed, rfl, rfl⟩ := taken
    obtain ⟨free, rfl, rfl, rfl⟩ := bufferPush_eq_some pushed
    exact .forwardLeft here free
  case h_3 right here =>
    simp only [Option.map_eq_some_iff, Prod.exists, Prod.mk.injEq] at taken
    obtain ⟨_, _, _, pushed, rfl, rfl⟩ := taken
    obtain ⟨free, rfl, rfl, rfl⟩ := bufferPush_eq_some pushed
    exact .forwardRight here free
  case h_4 =>
    simp only [Option.map_eq_some_iff, Prod.exists, Prod.mk.injEq] at taken
    obtain ⟨_, _, _, moved, rfl, rfl⟩ := taken
    exact .syncRead (read_move moved)

theorem writerStep_move (taken : writerStep state = some (next, events)) :
    Move state .writer next events := by
  unfold writerStep at taken
  split at taken
  case h_1 left right here =>
    cases taken
    exact .save here
  case h_2 =>
    simp only [Option.map_eq_some_iff, Prod.exists, Prod.mk.injEq] at taken
    obtain ⟨_, _, _, moved, rfl, rfl⟩ := taken
    exact .writerRead (read_move moved)

theorem step_move {action : Action}
    (taken : step state action = some (next, events)) :
    Move state action next events := by
  cases action with
  | camera side timestamp => exact cameraStep_move taken
  | sync => exact syncStep_move taken
  | writer => exact writerStep_move taken
  | handler =>
      simp only [step, handlerStep] at taken
      split at taken
      case h_1 here =>
        cases taken
        exact .interrupt here
      case h_2 stage side here =>
        cases taken
        exact .broadcast here
      case h_3 => cases taken
  | spurious stage side =>
      simp only [step] at taken
      split at taken
      case isTrue asleep =>
        cases taken
        exact .spurious asleep
      case isFalse => cases taken

end Steps

end SysOp.Lab6
