import SysOp.Foundation.Positional
import SysOp.Lab6.Pairing
import Mathlib.Tactic.Linarith
import Mathlib.Tactic.Ring

/-!
# Which pairs the synchroniser forwards

`sync_thread` throws both frames away when they do not match.  So it compares
the frames of the two cameras position by position, and a frame whose partner
stands at another position of its stream is lost with it.
-/

namespace SysOp.Lab6

open SysOp.Foundation

/-- 1000 / `CAMERA_FREQ_HZ`. -/
abbrev CAMERA_PERIOD_MS : Rat := 40

/-- The frames pushed to one of the buffers. -/
def pushed (stage : Stage) (side : Side) (trace : List Event) : List Frame :=
  trace.filterMap fun
    | .pushed filled there frame =>
        if filled = stage ∧ there = side then some frame else none
    | _ => none

/-- The frames popped off one of the buffers. -/
def popped (stage : Stage) (side : Side) (trace : List Event) : List Frame :=
  trace.filterMap fun
    | .popped emptied there frame =>
        if emptied = stage ∧ there = side then some frame else none
    | _ => none

/-- What `sync_thread` pushes on the left and on the right. -/
def forwarded (trace : List Event) : List (Frame × Frame) :=
  (pushed .sync .left trace).zip (pushed .sync .right trace)

def Event.isLoss : Event → Bool
  | .dropped .cam _ _ => true
  | _ => false

/-- The buffers of the cameras have dropped nothing. -/
def Lossless (trace : List Event) : Prop :=
  ∀ event ∈ trace, event.isLoss = false

def Spaced (frames : List Frame) : Prop :=
  frames.IsChain fun earlier later =>
    CAMERA_PERIOD_MS ≤ timeDiffMs earlier.timestamp later.timestamp

/-- Waiting for a frame that is not there. -/
def Reader.Drained (bufs : Sides FrameBuffer) : Reader SyncWork → Prop
  | .poppingLeft _ => bufs.left.count = 0
  | .poppingRight _ _ => bufs.right.count = 0
  | _ => False

instance (bufs : Sides FrameBuffer) :
    ∀ sync : Reader SyncWork, Decidable (sync.Drained bufs)
  | .poppingLeft _ => inferInstanceAs (Decidable (bufs.left.count = 0))
  | .poppingRight _ _ => inferInstanceAs (Decidable (bufs.right.count = 0))
  | .checking | .working _ | .exited => .isFalse id

/-- `sync_thread` has consumed the two streams. -/
abbrev State.Drained (state : State) : Prop :=
  state.sync.Drained state.camBufs

/-- All the matching pairs of two streams, each once. -/
structure Complete (lefts rights : List Frame) (pairs : List (Frame × Frame)) :
    Prop where
  once : pairs.Nodup
  exact : ∀ left right, (left, right) ∈ pairs ↔
    left ∈ lefts ∧ right ∈ rights ∧ Matches left right

/-- The matches are those of the frames compared so far, by position. -/
def Reader.Compared (trace : List Event) (sync : Reader SyncWork) : Prop :=
  sync ≠ .exited → ∃ lefts rights : List Frame,
    lefts.length = rights.length ∧
    popped .cam .left trace = lefts ++ sync.held .left ∧
    popped .cam .right trace = rights ++ sync.held .right ∧
    matchedPairs trace = positional Matches lefts rights

structure Synchronised (trace : List Event) (state : State) : Prop where
  formed : ∀ side, (state.camBufs.get side).WellFormed ∧
    (state.syncBufs.get side).WellFormed
  intact : Lossless trace → ∀ side, pushed .cam side trace =
    popped .cam side trace ++ (state.camBufs.get side).frames
  sent : ∀ side,
    pushed .sync side trace ++ state.sync.unsent side = stream side trace
  compared : state.sync.Compared trace

section History

variable (stage : Stage) (side : Side) (earlier later : List Event)

@[simp]
theorem pushed_append :
    pushed stage side (earlier ++ later) =
      pushed stage side earlier ++ pushed stage side later :=
  List.filterMap_append

@[simp]
theorem popped_append :
    popped stage side (earlier ++ later) =
      popped stage side earlier ++ popped stage side later :=
  List.filterMap_append

@[simp]
theorem pushed_pushEvents (filled : Stage) (there : Side) (buf : FrameBuffer)
    (frame : Frame) :
    pushed stage side (pushEvents filled there buf frame) =
      if filled = stage ∧ there = side then [frame] else [] := by
  rw [pushEvents, pushed_append]
  have none : pushed stage side (buf.evicted.map (.dropped filled there)) =
      [] := by
    simp only [FrameBuffer.evicted]
    split <;> rfl
  rw [none, List.nil_append, pushed, List.filterMap_cons]
  split <;> simp_all

@[simp]
theorem popped_pushEvents (filled : Stage) (there : Side) (buf : FrameBuffer)
    (frame : Frame) :
    popped stage side (pushEvents filled there buf frame) = [] := by
  simp only [pushEvents, popped, FrameBuffer.evicted]
  split <;> rfl

end History

section Steps

variable {trace events : List Event} {state next : State} {action : Action}

theorem ReadMove.pushed {Work : Type} {stage : Stage}
    {work : Frame → Frame → Work} {isRunning : Bool}
    {bufs after : Sides FrameBuffer} {reader later : Reader Work}
    (move : ReadMove stage work isRunning bufs reader after later events)
    (filled : Stage) (side : Side) : pushed filled side events = [] := by
  cases move <;> rfl

theorem ReadMove.popped_other {Work : Type} {stage other : Stage}
    {work : Frame → Frame → Work} {isRunning : Bool}
    {bufs after : Sides FrameBuffer} {reader later : Reader Work}
    (move : ReadMove stage work isRunning bufs reader after later events)
    (different : stage ≠ other) (side : Side) :
    popped other side events = [] := by
  cases move with
  | popLeft | popRight => simp [popped, different]
  | _ => rfl

/-- What has been pushed on and what is still to be pushed are the matched
frames. -/
theorem Move.sent (move : Move state action next events)
    (sent : ∀ side,
      pushed .sync side trace ++ state.sync.unsent side = stream side trace)
    (side : Side) :
    pushed .sync side (trace ++ events) ++ next.sync.unsent side =
      stream side (trace ++ events) := by
  have before := sent side
  cases move with
  | shoot =>
      rw [stream_append_of_nil (matchedPairs_pushEvents ..)]
      simpa using before
  | syncRead moved =>
      obtain ⟨_, none, noneAfter⟩ := moved.cam trace side
      rw [none] at before
      rw [stream_append_of_nil moved.matchedPairs, pushed_append, moved.pushed,
        noneAfter, List.append_nil]
      exact before
  | pair here matching =>
      rw [here] at before
      rw [stream_append, ← before]
      simp [pushed, stream, matchedPairs, Reader.unsent]
  | discard here =>
      rw [here] at before
      simpa [Reader.unsent] using before
  | forwardLeft here free =>
      rw [here] at before
      rw [stream_append_of_nil (matchedPairs_pushEvents ..), ← before]
      cases side <;> simp [Reader.unsent, Side.of]
  | forwardRight here free =>
      rw [here] at before
      rw [stream_append_of_nil (matchedPairs_pushEvents ..), ← before]
      cases side <;> simp [Reader.unsent]
  | writerRead moved =>
      rw [stream_append_of_nil moved.matchedPairs, pushed_append, moved.pushed,
        List.append_nil]
      exact before
  | save here =>
      rw [stream_append_of_nil rfl]
      simpa [pushed] using before
  | @broadcast stage | @spurious stage =>
      rw [List.append_nil]
      cases stage with
      | cam => simpa only [State.wake, Reader.unsent_wake] using before
      | sync => exact before
  | create | stop | interrupt => simpa using before

theorem ReadMove.intact {isRunning : Bool} {bufs after : Sides FrameBuffer}
    {reader later : Reader SyncWork}
    (move : ReadMove .cam .comparing isRunning bufs reader after later events)
    (formed : ∀ side, (bufs.get side).WellFormed) (side : Side) :
    (bufs.get side).frames =
      popped .cam side events ++ (after.get side).frames := by
  cases move with
  | popLeft stored =>
      have contents := ((formed .left).pop stored).2
      cases side with
      | left => simpa [popped, Sides.get] using contents
      | right => rfl
  | popRight stored =>
      have contents := ((formed .right).pop stored).2
      cases side with
      | left => rfl
      | right => simpa [popped, Sides.get] using contents
  | _ => rfl

/-- While nothing is dropped, what has been pushed has been popped or is still
there. -/
theorem Move.intact (move : Move state action next events)
    (formed : ∀ side, (state.camBufs.get side).WellFormed)
    (lossless : Lossless events)
    (intact : ∀ side, pushed .cam side trace =
      popped .cam side trace ++ (state.camBufs.get side).frames)
    (side : Side) :
    pushed .cam side (trace ++ events) =
      popped .cam side (trace ++ events) ++ (next.camBufs.get side).frames := by
  have before := intact side
  cases move with
  | @shoot other timestamp frame here free =>
      rw [pushed_append, pushed_pushEvents, popped_append, popped_pushEvents,
        Sides.get_set, before]
      by_cases same : other = side
      · subst same
        have contents :=
          FrameBuffer.evicted_append_frames_push (formed other) frame
        have none : (state.camBufs.get other).evicted = [] := by
          rw [List.eq_nil_iff_forall_not_mem]
          intro oldest membership
          have lost := lossless (.dropped .cam other oldest)
            (List.mem_append_left _ (List.mem_map_of_mem membership))
          cases lost
        rw [none, List.nil_append] at contents
        simp [contents]
      · simp [same, Ne.symm same]
  | syncRead moved =>
      rw [pushed_append, moved.pushed, List.append_nil, popped_append,
        List.append_assoc, ← moved.intact formed side]
      exact before
  | writerRead moved =>
      rw [pushed_append, moved.pushed, List.append_nil, popped_append,
        moved.popped_other (by decide), List.append_nil]
      exact before
  | forwardLeft | forwardRight => simpa using before
  | @broadcast stage | @spurious stage =>
      rw [List.append_nil]
      cases stage <;> exact before
  | _ => simpa [pushed, popped] using before

theorem Reader.Compared.later {sync after : Reader SyncWork}
    (compared : sync.Compared trace)
    (running : after ≠ .exited → sync ≠ .exited)
    (held : ∀ side, after.held side = sync.held side)
    (unpopped : ∀ side, popped .cam side events = [])
    (unmatched : matchedPairs events = []) :
    after.Compared (trace ++ events) := by
  intro alive
  obtain ⟨lefts, rights, together, left, right, found⟩ :=
    compared (running alive)
  refine ⟨lefts, rights, together, ?_, ?_, ?_⟩
  · rw [popped_append, unpopped, List.append_nil, held]
    exact left
  · rw [popped_append, unpopped, List.append_nil, held]
    exact right
  · rw [matchedPairs_append, unmatched, List.append_nil]
    exact found

theorem Reader.wake_ne_exited {sync : Reader SyncWork} {side : Side}
    (alive : sync.wake side ≠ .exited) : sync ≠ .exited := by
  rintro rfl
  exact alive rfl

theorem ReadMove.compared {isRunning : Bool} {bufs after : Sides FrameBuffer}
    {reader later : Reader SyncWork}
    (move : ReadMove .cam .comparing isRunning bufs reader after later events)
    (compared : reader.Compared trace) : later.Compared (trace ++ events) := by
  cases move with
  | leave | abortLeft | abortRight => exact fun alive => absurd rfl alive
  | popLeft stored =>
      intro _
      obtain ⟨lefts, rights, together, left, right, found⟩ :=
        compared (by simp)
      refine ⟨lefts, rights, together, ?_, ?_, ?_⟩
      · simpa [popped, Reader.held] using left
      · simpa [popped, Reader.held] using right
      · simpa [Lab6.matchedPairs] using found
  | popRight stored =>
      intro _
      obtain ⟨lefts, rights, together, left, right, found⟩ :=
        compared (by simp)
      refine ⟨lefts, rights, together, ?_, ?_, ?_⟩
      · simpa [popped, Reader.held, Side.of] using left
      · simpa [popped, Reader.held, Side.of] using right
      · simpa [Lab6.matchedPairs] using found
  | begin | waitLeft | sleepLeft | waitRight | sleepRight =>
      exact compared.later (by simp) (fun _ => rfl) (fun _ => rfl) rfl

/-- A comparison adds one position to those compared. -/
theorem Reader.Compared.compare {left right : Frame} {after : Reader SyncWork}
    (compared : (Reader.working (.comparing left right)).Compared trace)
    (nothing : ∀ side, after.held side = [])
    (unpopped : ∀ side, popped .cam side events = [])
    (tested : matchedPairs events = positional Matches [left] [right]) :
    after.Compared (trace ++ events) := by
  intro _
  obtain ⟨lefts, rights, together, poppedLeft, poppedRight, found⟩ :=
    compared (by simp)
  refine ⟨lefts ++ [left], rights ++ [right], ?_, ?_, ?_, ?_⟩
  · simp [together]
  · rw [popped_append, unpopped, nothing, poppedLeft]
    simp [Reader.held, Side.of]
  · rw [popped_append, unpopped, nothing, poppedRight]
    simp [Reader.held, Side.of]
  · rw [matchedPairs_append, found, tested, positional_append _ _ together]

theorem Move.compared (move : Move state action next events)
    (compared : state.sync.Compared trace) :
    next.sync.Compared (trace ++ events) := by
  cases move with
  | shoot =>
      exact compared.later Reader.wake_ne_exited
        (fun side => Reader.held_wake ..) (fun side => popped_pushEvents ..)
        (matchedPairs_pushEvents ..)
  | syncRead moved => exact moved.compared compared
  | pair here matching =>
      rw [here] at compared
      apply compared.compare (fun _ => rfl) (fun _ => rfl)
      simp [matchedPairs, positional, matching]
  | discard here mismatched =>
      rw [here] at compared
      apply compared.compare (fun _ => rfl) (fun _ => rfl)
      simp [matchedPairs, positional, mismatched]
  | forwardLeft here free | forwardRight here free =>
      rw [here] at compared
      exact compared.later (by simp) (fun _ => rfl)
        (fun side => popped_pushEvents ..) (matchedPairs_pushEvents ..)
  | writerRead moved =>
      exact compared.later id (fun _ => rfl)
        (fun side => moved.popped_other (by decide) side) moved.matchedPairs
  | @broadcast stage | @spurious stage =>
      cases stage with
      | cam =>
          exact compared.later Reader.wake_ne_exited
            (fun side => Reader.held_wake ..) (fun _ => rfl) rfl
      | sync => exact compared.later id (fun _ => rfl) (fun _ => rfl) rfl
  | create | stop | save | interrupt =>
      exact compared.later id (fun _ => rfl) (fun _ => rfl) rfl

theorem Move.synchronised (move : Move state action next events)
    (synchronised : Synchronised trace state) :
    Synchronised (trace ++ events) next where
  formed := move.formed synchronised.formed
  intact lossless := by
    have earlier : Lossless trace := fun event membership =>
      lossless event (List.mem_append_left _ membership)
    have later : Lossless events := fun event membership =>
      lossless event (List.mem_append_right _ membership)
    exact move.intact (fun side => (synchronised.formed side).1) later
      (synchronised.intact earlier)
  sent := move.sent synchronised.sent
  compared := move.compared synchronised.compared

end Steps

section Streams

theorem timeDiffMs_add (start middle finish : Timespec) :
    timeDiffMs start middle + timeDiffMs middle finish =
      timeDiffMs start finish := by
  simp only [timeDiffMs]
  ring

/-- The frames of a stream are pairwise different. -/
theorem Spaced.nodup {frames : List Frame} (spaced : Spaced frames) :
    frames.Nodup := by
  let apart (earlier later : Frame) : Prop :=
    CAMERA_PERIOD_MS ≤ timeDiffMs earlier.timestamp later.timestamp
  have : IsTrans Frame apart := by
    constructor
    intro first second third near far
    have sum :=
      timeDiffMs_add first.timestamp second.timestamp third.timestamp
    simp only [apart] at near far ⊢
    linarith
  have pairwise : frames.Pairwise apart := List.isChain_iff_pairwise.mp spaced
  refine pairwise.imp ?_
  rintro earlier later far rfl
  simp only [apart, timeDiffMs, sub_self] at far
  norm_num at far

variable {lefts rights : List Frame}

theorem complete_iff_aligned (spaced : Spaced lefts)
    (spacedRight : Spaced rights) :
    Complete lefts rights (positional Matches lefts rights) ↔
      Aligned Matches lefts rights := by
  constructor
  · intro complete
    apply aligned_of_complete spaced.nodup spacedRight.nodup
    intro left isLeft right isRight matching
    exact (complete.exact left right).mpr ⟨isLeft, isRight, matching⟩
  · intro aligned
    exact ⟨positional_nodup spaced.nodup rights, aligned.exact⟩

end Streams

section Runs

variable {trace : List Event} {state : State}

theorem initial_synchronised : Synchronised [] initial where
  formed := paired_initial.formed
  intact _ side := by
    cases side <;> rfl
  sent side := by cases side <;> rfl
  compared _ := ⟨[], [], rfl, rfl, rfl, rfl⟩

theorem run_synchronised (run : pipeline.Run initial trace state) :
    Synchronised trace state :=
  run.history Synchronised initial_synchronised
    fun synchronised _ taken => (step_move taken).synchronised synchronised

theorem FrameBuffer.frames_eq_nil {buf : FrameBuffer} (empty : buf.count = 0) :
    buf.frames = [] := by
  rw [FrameBuffer.frames, empty]
  rfl

/-- Nothing in hand is left to push. -/
theorem State.Drained.forwarded (drained : state.Drained)
    (synchronised : Synchronised trace state) :
    forwarded trace = matchedPairs trace := by
  have unsent : ∀ side, state.sync.unsent side = [] := by
    intro side
    cases here : state.sync with
    | working => simp [State.Drained, Reader.Drained, here] at drained
    | _ => rfl
  have sent : ∀ side, pushed .sync side trace = stream side trace := by
    intro side
    rw [← synchronised.sent side, unsent, List.append_nil]
  rw [Lab6.forwarded, sent, sent]
  exact (List.zip_of_prod rfl rfl).symm

theorem State.Drained.positional (drained : state.Drained)
    (synchronised : Synchronised trace state) (lossless : Lossless trace) :
    matchedPairs trace = positional Matches (pushed .cam .left trace)
      (pushed .cam .right trace) := by
  have intact := synchronised.intact lossless
  have alive : state.sync ≠ .exited := by
    intro here
    simp [State.Drained, Reader.Drained, here] at drained
  obtain ⟨lefts, rights, together, left, right, found⟩ :=
    synchronised.compared alive
  rw [intact .left, intact .right, left, right, found, List.append_assoc,
    List.append_assoc, positional_append _ _ together]
  cases here : state.sync with
  | poppingLeft wait | poppingRight first wait =>
      simp only [State.Drained, Reader.Drained, here] at drained
      simp [Reader.held, Sides.get, FrameBuffer.frames_eq_nil drained,
        Foundation.positional]
  | _ => simp [State.Drained, Reader.Drained, here] at drained

/-- Once `sync_thread` has consumed two lossless streams it has forwarded
their matching pairs exactly if all of them stand at one position. -/
theorem forwarded_complete_iff (run : pipeline.Run initial trace state)
    (lossless : Lossless trace) (drained : state.Drained)
    (spaced : ∀ side, Spaced (pushed .cam side trace)) :
    Complete (pushed .cam .left trace) (pushed .cam .right trace)
        (forwarded trace) ↔
      Aligned Matches (pushed .cam .left trace) (pushed .cam .right trace) := by
  have synchronised := run_synchronised run
  rw [drained.forwarded synchronised,
    drained.positional synchronised lossless]
  exact complete_iff_aligned (spaced .left) (spaced .right)

end Runs

/-- Two rounds in step, up to where `sync_thread` waits for a third. -/
def inStep : State × List Event :=
  (pipeline.execute (fun _ _ => True) initial
    (matchedRounds 2 ++ [.sync])).get (by decide +kernel)

theorem forwarded_complete_iff_inStep :
    Complete (pushed .cam .left inStep.2) (pushed .cam .right inStep.2)
        (forwarded inStep.2) ↔
      Aligned Matches (pushed .cam .left inStep.2)
        (pushed .cam .right inStep.2) := by
  have run : pipeline.Run initial inStep.2 inStep.1 :=
    Machine.execute_get_runWithin _
  apply forwarded_complete_iff run
  · unfold Lossless
    decide +kernel
  · decide +kernel
  · intro side
    unfold Spaced
    cases side <;> decide +kernel

/-- The right camera starts one period after the left one. -/
def lateSchedule : List Action :=
  List.replicate 2 (.camera .left ⟨0, 0⟩) ++ shots 1 ++
    List.replicate 6 .sync

def late : State × List Event :=
  (pipeline.execute (fun _ _ => True) initial lateSchedule).get
    (by decide +kernel)

/-- The two frames of the second period match, but are not compared. -/
theorem forwarded_late :
    ∃ (trace : List Event) (state : State) (left right : Frame),
      pipeline.Run initial trace state ∧ Lossless trace ∧ state.Drained ∧
        (∀ side, Spaced (pushed .cam side trace)) ∧
        left ∈ pushed .cam .left trace ∧ right ∈ pushed .cam .right trace ∧
        Matches left right ∧ (left, right) ∉ forwarded trace := by
  have run : pipeline.Run initial late.2 late.1 :=
    Machine.execute_get_runWithin _
  refine ⟨_, _, ⟨2, 0, 40000000⟩, ⟨1, 0, 40000000⟩, run, ?_, ?_, ?_, ?_⟩
  · unfold Lossless
    decide +kernel
  · decide +kernel
  · intro side
    unfold Spaced
    cases side <;> decide +kernel
  · decide +kernel

end SysOp.Lab6
