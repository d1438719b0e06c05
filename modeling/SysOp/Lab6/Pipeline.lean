import SysOp.Foundation.Machine
import SysOp.Lab6.Buffer

/-!
# The camera pipeline of levels two and three

Two cameras push into two buffers, `sync_thread` pops from both and pushes
matching pairs into two more, `image_writer_thread` pops those and saves them.
`handle_sigint` runs once, beside all threads.

A step is one critical section or one local decision.  Under a mutex other
threads can only notice the signal handler, which takes none: `buffer_pop`
gives it the chance to run between its test and its sleep, and the thread at
that point is the only one to hold a mutex between two steps.

The frame counters and the threads that touch no buffer are left out.
-/

namespace SysOp.Lab6

open SysOp.Foundation

inductive Side where
  | left
  | right
  deriving DecidableEq

/-- The buffers the cameras fill, and those `sync_thread` fills. -/
inductive Stage where
  | cam
  | sync
  deriving DecidableEq

structure Sides (Item : Type) where
  left : Item
  right : Item

namespace Sides

variable {Item : Type}

def get (sides : Sides Item) : Side → Item
  | .left => sides.left
  | .right => sides.right

def set (sides : Sides Item) (side : Side) (item : Item) : Sides Item :=
  match side with
  | .left => { sides with left := item }
  | .right => { sides with right := item }

@[simp]
theorem get_set (sides : Sides Item) (side other : Side) (item : Item) :
    (sides.set side item).get other =
      if other = side then item else sides.get other := by
  cases side <;> cases other <;> rfl

end Sides

/-- Inside `buffer_pop`: before the lock, between the test of the wait
condition and `pthread_cond_wait`, and asleep in it. -/
inductive Wait where
  | entering
  | deciding
  | asleep
  deriving DecidableEq

inductive PopOutcome where
  | waiting (wait : Wait)
  | aborted
  | popped (frame : Frame)

/-- `buffer_pop`.  Under the lock the count does not change and `is_running`
never becomes true again, so its second test agrees with its first. -/
def bufferPop (isRunning : Bool) (buf : FrameBuffer) :
    Wait → Option (FrameBuffer × PopOutcome)
  | .entering =>
      if buf.count = 0 then
        some (buf, if isRunning then .waiting .deciding else .aborted)
      else
        some (buf.pop, .popped buf.front)
  | .deciding => some (buf, .waiting .asleep)
  | .asleep => none

/-- A thread that pops a left and a right frame in each iteration. -/
inductive Reader (Work : Type) where
  | checking
  | poppingLeft (wait : Wait)
  | poppingRight (left : Frame) (wait : Wait)
  | working (work : Work)
  | exited

inductive SyncWork where
  | comparing (left right : Frame)
  | pushingLeft (left right : Frame)
  | pushingRight (right : Frame)

inductive WriterWork where
  | saving (left right : Frame)

inductive CameraPoint where
  | checking
  | pushing (frame : Frame)
  | exited

/-- `nextId` is the variable `id`. -/
structure Camera where
  nextId : Int
  point : CameraPoint

/-- `handle_sigint`: not called yet, before one of its broadcasts, returned. -/
inductive Handler where
  | ready
  | broadcasting (stage : Stage) (side : Side)
  | finished

structure State where
  isRunning : Bool
  handler : Handler
  camBufs : Sides FrameBuffer
  syncBufs : Sides FrameBuffer
  cameras : Sides Camera
  sync : Reader SyncWork
  writer : Reader WriterWork

inductive Event where
  | pushed (stage : Stage) (side : Side) (frame : Frame)
  | dropped (stage : Stage) (side : Side) (frame : Frame)
  | popped (stage : Stage) (side : Side) (frame : Frame)
  | matched (left right : Frame)
  | saved (left right : Frame)
  deriving DecidableEq

/-- A camera step reads the clock if it creates a frame; a thread asleep on a
condition variable may wake up without a signal. -/
inductive Action where
  | camera (side : Side) (timestamp : Timespec)
  | sync
  | writer
  | handler
  | spurious (stage : Stage) (side : Side)

namespace Reader

variable {Work : Type}

/-- Where the reader is inside `buffer_pop` on a buffer. -/
def waitOn : Reader Work → Side → Option Wait
  | .poppingLeft wait, .left => some wait
  | .poppingRight _ wait, .right => some wait
  | _, _ => none

/-- A signal on `not_empty` wakes the reader if it is asleep there. -/
def wake (side : Side) : Reader Work → Reader Work
  | .poppingLeft .asleep =>
      match side with
      | .left => .poppingLeft .entering
      | .right => .poppingLeft .asleep
  | .poppingRight left .asleep =>
      match side with
      | .left => .poppingRight left .asleep
      | .right => .poppingRight left .entering
  | reader => reader

/-- The loop of a reader up to its second `buffer_pop`. -/
def read (stage : Stage) (work : Frame → Frame → Work) (isRunning : Bool)
    (bufs : Sides FrameBuffer) :
    Reader Work → Option (Sides FrameBuffer × Reader Work × List Event)
  | .checking =>
      some (bufs, if isRunning then .poppingLeft .entering else .exited, [])
  | .poppingLeft wait =>
      (bufferPop isRunning bufs.left wait).map fun
        | (_, .waiting wait) => (bufs, .poppingLeft wait, [])
        | (_, .aborted) => (bufs, .exited, [])
        | (left, .popped frame) =>
            ({ bufs with left }, .poppingRight frame .entering,
              [.popped stage .left frame])
  | .poppingRight first wait =>
      (bufferPop isRunning bufs.right wait).map fun
        | (_, .waiting wait) => (bufs, .poppingRight first wait, [])
        | (_, .aborted) => (bufs, .exited, [])
        | (right, .popped frame) =>
            ({ bufs with right }, .working (work first frame),
              [.popped stage .right frame])
  | .working _ | .exited => none

end Reader

/-- `buffer_push`, which signals `not_empty` to the reader of the buffer.  It
waits for the mutex while that reader holds it. -/
def bufferPush {Work : Type} (stage : Stage) (bufs : Sides FrameBuffer)
    (reader : Reader Work) (side : Side) (frame : Frame) :
    Option (Sides FrameBuffer × Reader Work × List Event) :=
  if reader.waitOn side = some .deciding then none
  else
    some (bufs.set side ((bufs.get side).push frame), reader.wake side,
      (bufs.get side).evicted.map (.dropped stage side) ++
        [.pushed stage side frame])

/-- `left_camera_thread` and `right_camera_thread`. -/
def cameraStep (side : Side) (timestamp : Timespec) (state : State) :
    Option (State × List Event) :=
  let camera := state.cameras.get side
  match camera.point with
  | .checking =>
      if state.isRunning then
        some ({ state with
          cameras := state.cameras.set side
            { nextId := camera.nextId + 1
              point := .pushing ⟨camera.nextId, timestamp⟩ } }, [])
      else
        some ({ state with
          cameras := state.cameras.set side
            { camera with point := .exited } }, [])
  | .pushing frame =>
      (bufferPush .cam state.camBufs state.sync side frame).map
        fun (camBufs, sync, events) =>
          ({ state with
              camBufs, sync
              cameras := state.cameras.set side
                { camera with point := .checking } }, events)
  | .exited => none

def syncStep (state : State) : Option (State × List Event) :=
  match state.sync with
  | .working (.comparing left right) =>
      if Matches left right then
        some ({ state with sync := .working (.pushingLeft left right) },
          [.matched left right])
      else
        some ({ state with sync := .checking }, [])
  | .working (.pushingLeft left right) =>
      (bufferPush .sync state.syncBufs state.writer .left left).map
        fun (syncBufs, writer, events) =>
          ({ state with
              syncBufs, writer, sync := .working (.pushingRight right) },
            events)
  | .working (.pushingRight right) =>
      (bufferPush .sync state.syncBufs state.writer .right right).map
        fun (syncBufs, writer, events) =>
          ({ state with syncBufs, writer, sync := .checking }, events)
  | reader =>
      (reader.read .cam .comparing state.isRunning state.camBufs).map
        fun (camBufs, sync, events) => ({ state with camBufs, sync }, events)

def writerStep (state : State) : Option (State × List Event) :=
  match state.writer with
  | .working (.saving left right) =>
      some ({ state with writer := .checking }, [.saved left right])
  | reader =>
      (reader.read .sync .saving state.isRunning state.syncBufs).map
        fun (syncBufs, writer, events) =>
          ({ state with syncBufs, writer }, events)

/-- The reader of a stage, woken on one side. -/
def State.wake (state : State) (stage : Stage) (side : Side) : State :=
  match stage with
  | .cam => { state with sync := state.sync.wake side }
  | .sync => { state with writer := state.writer.wake side }

def State.waitOn (state : State) (stage : Stage) (side : Side) : Option Wait :=
  match stage with
  | .cam => state.sync.waitOn side
  | .sync => state.writer.waitOn side

def Handler.after : Stage → Side → Handler
  | .cam, .left => .broadcasting .cam .right
  | .cam, .right => .broadcasting .sync .left
  | .sync, .left => .broadcasting .sync .right
  | .sync, .right => .finished

def handlerStep (state : State) : Option (State × List Event) :=
  match state.handler with
  | .ready =>
      some ({ state with
        isRunning := false, handler := .broadcasting .cam .left }, [])
  | .broadcasting stage side =>
      some ({ state.wake stage side with handler := .after stage side }, [])
  | .finished => none

def step (state : State) : Action → Option (State × List Event)
  | .camera side timestamp => cameraStep side timestamp state
  | .sync => syncStep state
  | .writer => writerStep state
  | .handler => handlerStep state
  | .spurious stage side =>
      if state.waitOn stage side = some .asleep then
        some (state.wake stage side, [])
      else none

def initial : State where
  isRunning := true
  handler := .ready
  camBufs := ⟨.init, .init⟩
  syncBufs := ⟨.init, .init⟩
  cameras := ⟨⟨1, .checking⟩, ⟨1, .checking⟩⟩
  sync := .checking
  writer := .checking

def pipeline : Machine State Action Event where
  start := initial
  step := step

end SysOp.Lab6
