import SysOp.Foundation.Cursor
import SysOp.Lab6.Matching

/-!
# Which pairs the writer saves

The frames of the matched pairs are two streams through two buffers that drop
independently.  The writer takes one frame off each, so what it saves is a
matched pair exactly if both buffers had dropped equally often by then.
-/

namespace SysOp.Lab6

open SysOp.Foundation

/-- What has left one of the buffers between `sync_thread` and the writer.
`droppedAtPop` is how many frames it had dropped at its last pop. -/
structure Tally where
  popped : Nat
  dropped : Nat
  droppedAtPop : Nat

def Tally.count (side : Side) (tally : Tally) : Event → Tally
  | .dropped .sync other _ =>
      if other = side then { tally with dropped := tally.dropped + 1 }
      else tally
  | .popped .sync other _ =>
      if other = side then
        { tally with
          popped := tally.popped + 1
          droppedAtPop := tally.dropped }
      else tally
  | _ => tally

def tally (side : Side) (trace : List Event) : Tally :=
  trace.foldl (Tally.count side) ⟨0, 0, 0⟩

/-- The frames of the pair in hand that are still to be pushed. -/
def Reader.unsent (side : Side) : Reader SyncWork → List Frame
  | .working (.pushingLeft left right) => [side.of (left, right)]
  | .working (.pushingRight right) =>
      match side with
      | .left => []
      | .right => [right]
  | _ => []

/-- Where in the streams the writer has got its frames from. -/
def Placed (trace : List Event) : Reader WriterWork → Prop
  | .checking | .poppingLeft _ =>
      (tally .left trace).popped = (tally .right trace).popped
  | .poppingRight left _ =>
      (tally .left trace).popped = (tally .right trace).popped + 1 ∧
        (stream .left trace)[(tally .right trace).popped +
          (tally .left trace).droppedAtPop]? = some left
  | .working (.saving left right) => ∃ before,
      (tally .left trace).popped = before + 1 ∧
        (tally .right trace).popped = before + 1 ∧
        (stream .left trace)[before +
          (tally .left trace).droppedAtPop]? = some left ∧
        (stream .right trace)[before +
          (tally .right trace).droppedAtPop]? = some right
  | .exited => True

structure Paired (trace : List Event) (state : State) : Prop where
  formed : ∀ side, (state.camBufs.get side).WellFormed ∧
    (state.syncBufs.get side).WellFormed
  ordered : ∀ side, (state.ids side trace).Pairwise (· < ·)
  flowing : ∀ side, Cursor (stream side trace)
    ((tally side trace).popped + (tally side trace).dropped)
    ((state.syncBufs.get side).frames ++ state.sync.unsent side)
  placed : Placed trace state.writer
  tolerated : ∀ pair ∈ matchedPairs trace, Matches pair.1 pair.2

section History

variable (side : Side) (earlier later : List Event)

theorem tally_append :
    tally side (earlier ++ later) =
      later.foldl (Tally.count side) (tally side earlier) :=
  List.foldl_append

/-- A push is counted by what it drops, where it drops it. -/
theorem count_pushEvents (tally : Tally) (stage : Stage) (other : Side)
    (buf : FrameBuffer) (frame : Frame) :
    (pushEvents stage other buf frame).foldl (Tally.count side) tally =
      if stage = .sync ∧ other = side then
        { tally with dropped := tally.dropped + buf.evicted.length }
      else tally := by
  simp only [pushEvents, FrameBuffer.evicted]
  cases stage <;> cases buf.isFull <;> by_cases same : other = side <;>
    simp [Tally.count, same]

theorem stream_popped (stage : Stage) (other : Side) (frame : Frame) :
    stream side (earlier ++ [.popped stage other frame]) =
      stream side earlier := by
  simp [stream, matchedPairs]

theorem tally_popped (other : Side) (frame : Frame) :
    tally side (earlier ++ [.popped .sync other frame]) =
      if other = side then
        { tally side earlier with
          popped := (tally side earlier).popped + 1
          droppedAtPop := (tally side earlier).dropped }
      else tally side earlier := by
  rw [tally_append]
  rfl

end History

@[simp]
theorem Reader.unsent_wake (reader : Reader SyncWork) (side other : Side) :
    (reader.wake side).unsent other = reader.unsent other := by
  cases reader with
  | poppingLeft wait | poppingRight first wait =>
      cases wait <;> cases side <;> rfl
  | _ => rfl

theorem placed_wake {trace : List Event} (writer : Reader WriterWork)
    (side : Side) :
    Placed trace (writer.wake side) ↔ Placed trace writer := by
  cases writer with
  | poppingLeft wait | poppingRight first wait =>
      cases wait <;> cases side <;> rfl
  | _ => rfl

section Reading

variable {Work : Type} {stage : Stage} {work : Frame → Frame → Work}
  {isRunning : Bool} {bufs next : Sides FrameBuffer}
  {reader after : Reader Work} {events : List Event}

theorem ReadMove.not_saved {left right : Frame}
    (move : ReadMove stage work isRunning bufs reader next after events) :
    .saved left right ∉ events := by
  cases move <;> simp

end Reading

section Steps

variable {trace events : List Event} {state next : State} {action : Action}

variable (trace) in
/-- What `sync_thread` reads has no effect behind the matching. -/
theorem ReadMove.cam {isRunning : Bool} {bufs after : Sides FrameBuffer}
    {reader later : Reader SyncWork}
    (move : ReadMove .cam .comparing isRunning bufs reader after later events)
    (side : Side) :
    tally side (trace ++ events) = tally side trace ∧
      reader.unsent side = [] ∧ later.unsent side = [] := by
  rw [tally_append]
  cases move <;> exact ⟨rfl, rfl, rfl⟩

theorem flowing_push {bufs : Sides FrameBuffer} {side other : Side}
    {frame : Frame} {rest : List Frame}
    (formed : (bufs.get side).WellFormed)
    (flowing : Cursor (stream other trace)
      ((tally other trace).popped + (tally other trace).dropped)
      ((bufs.get other).frames ++
        (if other = side then [frame] else []) ++ rest)) :
    Cursor (stream other
        (trace ++ pushEvents .sync side (bufs.get side) frame))
      ((tally other (trace ++ pushEvents .sync side (bufs.get side)
          frame)).popped +
        (tally other (trace ++ pushEvents .sync side (bufs.get side)
          frame)).dropped)
      (((bufs.set side ((bufs.get side).push frame)).get other).frames ++
        rest) := by
  rw [stream_append_of_nil (matchedPairs_pushEvents ..), tally_append,
    count_pushEvents, Sides.get_set]
  by_cases same : other = side
  · subst same
    rw [if_pos rfl, ← FrameBuffer.evicted_append_frames_push formed,
      List.append_assoc] at flowing
    simpa [Nat.add_assoc] using flowing.skip _
  · simpa [same, Ne.symm same] using flowing

theorem ReadMove.flowing {isRunning : Bool}
    {bufs after : Sides FrameBuffer} {reader later : Reader WriterWork}
    {rest : Side → List Frame}
    (move : ReadMove .sync .saving isRunning bufs reader after later events)
    (formed : ∀ side, (bufs.get side).WellFormed)
    (flowing : ∀ side, Cursor (stream side trace)
      ((tally side trace).popped + (tally side trace).dropped)
      ((bufs.get side).frames ++ rest side)) (side : Side) :
    Cursor (stream side (trace ++ events))
      ((tally side (trace ++ events)).popped +
        (tally side (trace ++ events)).dropped)
      ((after.get side).frames ++ rest side) := by
  have before := flowing side
  rw [stream_append_of_nil move.matchedPairs, tally_append]
  cases move with
  | popLeft stored =>
      cases side with
      | right => exact before
      | left =>
          have popped := ((formed .left).pop stored).2
          rw [popped] at before
          have skipped := before.skip [bufs.left.front]
          simpa [Tally.count, Nat.add_right_comm, Sides.get] using skipped
  | popRight stored =>
      cases side with
      | left => exact before
      | right =>
          have popped := ((formed .right).pop stored).2
          rw [popped] at before
          have skipped := before.skip [bufs.right.front]
          simpa [Tally.count, Nat.add_right_comm, Sides.get] using skipped
  | _ => exact before

theorem Move.flowing (move : Move state action next events)
    (formed : ∀ side, (state.syncBufs.get side).WellFormed)
    (flowing : ∀ side, Cursor (stream side trace)
      ((tally side trace).popped + (tally side trace).dropped)
      ((state.syncBufs.get side).frames ++ state.sync.unsent side))
    (side : Side) :
    Cursor (stream side (trace ++ events))
      ((tally side (trace ++ events)).popped +
        (tally side (trace ++ events)).dropped)
      ((next.syncBufs.get side).frames ++ next.sync.unsent side) := by
  have before := flowing side
  cases move with
  | create | stop | interrupt => simpa using before
  | shoot =>
      rw [stream_append_of_nil (matchedPairs_pushEvents ..), tally_append,
        count_pushEvents, Reader.unsent_wake]
      simpa using before
  | syncRead moved =>
      obtain ⟨sameTally, none, noneAfter⟩ := moved.cam trace side
      rw [none] at before
      rw [stream_append_of_nil moved.matchedPairs, sameTally, noneAfter]
      exact before
  | @pair left right here matching =>
      rw [here] at before
      have extended := before.extend [side.of (left, right)]
      rw [tally_append]
      simpa [stream, matchedPairs, Reader.unsent, Tally.count] using extended
  | discard here =>
      rw [here] at before
      simpa [Reader.unsent] using before
  | forwardLeft here free =>
      apply flowing_push (formed .left)
      rw [here] at before
      cases side <;> simpa [Reader.unsent, Side.of] using before
  | forwardRight here free =>
      apply flowing_push (formed .right)
      rw [here] at before
      cases side <;> simpa [Reader.unsent] using before
  | writerRead moved => exact moved.flowing formed flowing side
  | save here =>
      rw [stream_append_of_nil rfl, tally_append]
      exact before
  | @broadcast stage | @spurious stage =>
      rw [List.append_nil]
      cases stage with
      | cam =>
          simpa only [State.wake, Reader.unsent_wake] using before
      | sync => exact before

theorem Placed.later {writer : Reader WriterWork}
    (placed : Placed trace writer)
    (same : ∀ side,
      (tally side (trace ++ events)).popped = (tally side trace).popped ∧
        (tally side (trace ++ events)).droppedAtPop =
          (tally side trace).droppedAtPop) :
    Placed (trace ++ events) writer := by
  have kept : ∀ {side : Side} {position : Nat} {frame : Frame},
      (stream side trace)[position]? = some frame →
      (stream side (trace ++ events))[position]? = some frame := by
    intro side position frame found
    obtain ⟨inside, _⟩ := List.getElem?_eq_some_iff.mp found
    rw [stream_append, List.getElem?_append_left inside]
    exact found
  cases writer with
  | checking | poppingLeft =>
      simpa only [Placed, (same .left).1, (same .right).1] using placed
  | poppingRight left wait =>
      simp only [Placed, (same .left).1, (same .left).2, (same .right).1]
      exact ⟨placed.1, kept placed.2⟩
  | working work =>
      obtain ⟨left, right⟩ := work
      simp only [Placed, (same .left).1, (same .left).2, (same .right).1,
        (same .right).2]
      obtain ⟨before, popped, poppedRight, first, second⟩ := placed
      exact ⟨before, popped, poppedRight, kept first, kept second⟩
  | exited => trivial

theorem ReadMove.placed {isRunning : Bool} {bufs after : Sides FrameBuffer}
    {reader later : Reader WriterWork} {rest : Side → List Frame}
    (move : ReadMove .sync .saving isRunning bufs reader after later events)
    (formed : ∀ side, (bufs.get side).WellFormed)
    (flowing : ∀ side, Cursor (stream side trace)
      ((tally side trace).popped + (tally side trace).dropped)
      ((bufs.get side).frames ++ rest side))
    (placed : Placed trace reader) : Placed (trace ++ events) later := by
  cases move with
  | popLeft stored =>
      have behind := flowing .left
      have popped := ((formed .left).pop stored).2
      simp only [Sides.get] at popped
      simp only [Sides.get, popped, List.cons_append] at behind
      have found := behind.next
      simp only [Placed] at placed
      simp only [Placed, stream_popped, tally_popped, if_true,
        reduceCtorEq, if_false, placed]
      rw [placed] at found
      exact ⟨trivial, found⟩
  | popRight stored =>
      have behind := flowing .right
      have popped := ((formed .right).pop stored).2
      simp only [Sides.get] at popped
      simp only [Sides.get, popped, List.cons_append] at behind
      have found := behind.next
      obtain ⟨popped, first⟩ := placed
      simp only [Placed, stream_popped, tally_popped, if_true,
        reduceCtorEq, if_false]
      exact ⟨_, popped, rfl, first, found⟩
  | leave | abortLeft | abortRight => trivial
  | _ =>
      rw [List.append_nil]
      exact placed

theorem Move.placed (move : Move state action next events)
    (formed : ∀ side, (state.syncBufs.get side).WellFormed)
    (flowing : ∀ side, Cursor (stream side trace)
      ((tally side trace).popped + (tally side trace).dropped)
      ((state.syncBufs.get side).frames ++ state.sync.unsent side))
    (placed : Placed trace state.writer) :
    Placed (trace ++ events) next.writer := by
  have pushed : ∀ (stage : Stage) (side : Side) (buf : FrameBuffer)
      (frame : Frame), Placed (trace ++ pushEvents stage side buf frame)
        state.writer := by
    intro stage side buf frame
    apply placed.later
    intro other
    rw [tally_append, count_pushEvents]
    split <;> exact ⟨rfl, rfl⟩
  cases move with
  | shoot => exact pushed ..
  | forwardLeft => exact (placed_wake _ .left).mpr (pushed ..)
  | forwardRight => exact (placed_wake _ .right).mpr (pushed ..)
  | writerRead moved => exact moved.placed formed flowing placed
  | syncRead moved =>
      apply placed.later
      intro side
      rw [(moved.cam trace side).1]
      exact ⟨rfl, rfl⟩
  | pair =>
      apply placed.later
      intro side
      rw [tally_append]
      exact ⟨rfl, rfl⟩
  | save here =>
      rw [here] at placed
      obtain ⟨before, popped, poppedRight, _⟩ := placed
      simp only [Placed, tally_append]
      exact popped.trans poppedRight.symm
  | @broadcast stage side | @spurious stage side =>
      rw [List.append_nil]
      cases stage with
      | cam => exact placed
      | sync => exact (placed_wake ..).mpr placed
  | _ => simpa using placed

theorem Move.paired (move : Move state action next events)
    (paired : Paired trace state) : Paired (trace ++ events) next where
  formed := move.formed paired.formed
  ordered side := move.ordered (fun side => (paired.formed side).1)
    (paired.ordered side)
  flowing := move.flowing (fun side => (paired.formed side).2) paired.flowing
  placed := move.placed (fun side => (paired.formed side).2) paired.flowing
    paired.placed
  tolerated := move.tolerated paired.tolerated

/-- What a save saves is what the writer has in hand. -/
theorem Move.saving (move : Move state action next events)
    {left right : Frame} (saved : Event.saved left right ∈ events) :
    state.writer = .working (.saving left right) := by
  cases move with
  | save here =>
      cases List.mem_singleton.mp saved
      exact here
  | shoot | forwardLeft | forwardRight => simp [pushEvents] at saved
  | syncRead moved | writerRead moved => exact absurd saved moved.not_saved
  | _ => simp at saved

end Steps

section Runs

variable {trace : List Event} {state : State}

theorem paired_initial : Paired [] initial where
  formed side := by
    cases side <;>
      exact ⟨FrameBuffer.init_holds.wellFormed,
        FrameBuffer.init_holds.wellFormed⟩
  ordered side := by cases side <;> exact List.pairwise_singleton ..
  flowing side := by cases side <;> exact .start
  placed := rfl
  tolerated := by
    intro pair membership
    cases membership

theorem run_paired (run : pipeline.Run initial trace state) :
    Paired trace state :=
  run.history Paired paired_initial
    fun paired _ taken => (step_move taken).paired paired

/-- No frame is matched twice. -/
theorem Paired.distinct (paired : Paired trace state) (side : Side) :
    (stream side trace).Nodup := by
  have ordered := paired.ordered side
  simp only [State.ids, List.map_append, List.append_assoc] at ordered
  have ids := (List.pairwise_append.mp ordered).1
  have distinct : ((stream side trace).map Frame.frameId).Nodup :=
    ids.imp (fun less => ne_of_lt less)
  exact distinct.of_map

theorem stream_getElem? (side : Side) (position : Nat) :
    (stream side trace)[position]? =
      (matchedPairs trace)[position]?.map side.of := by
  simp [stream]

/-- The writer saves a matched pair exactly if the two buffers had dropped
equally many frames when it popped from them. -/
theorem saved_matched_iff (run : pipeline.Run initial trace state)
    {action : Action} {next : State} {events : List Event}
    (taken : step state action = some (next, events)) {left right : Frame}
    (saved : .saved left right ∈ events) :
    (left, right) ∈ matchedPairs trace ∧ Matches left right ↔
      (tally .left trace).droppedAtPop =
        (tally .right trace).droppedAtPop := by
  have paired := run_paired run
  have placed := paired.placed
  rw [(step_move taken).saving saved] at placed
  obtain ⟨before, _, _, first, second⟩ := placed
  constructor
  · rintro ⟨membership, _⟩
    obtain ⟨position, found⟩ := List.mem_iff_getElem?.mp membership
    have atLeft : (stream .left trace)[position]? = some left := by
      simp [stream_getElem?, found, Side.of]
    have atRight : (stream .right trace)[position]? = some right := by
      simp [stream_getElem?, found, Side.of]
    have index : ∀ {side : Side} {here there : Nat} {frame : Frame},
        (stream side trace)[here]? = some frame →
        (stream side trace)[there]? = some frame → here = there := by
      intro side here there frame foundHere foundThere
      obtain ⟨inside, _⟩ := List.getElem?_eq_some_iff.mp foundHere
      exact (List.getElem?_inj inside (paired.distinct side)).mp
        (foundHere.trans foundThere.symm)
    have sameLeft := index atLeft first
    have sameRight := index atRight second
    omega
  · intro same
    rw [stream_getElem?, Option.map_eq_some_iff] at first second
    obtain ⟨pair, found, rfl⟩ := first
    rw [← same, found] at second
    obtain ⟨_, again, rfl⟩ := second
    cases again
    have membership := List.mem_of_getElem? found
    exact ⟨membership, paired.tolerated pair membership⟩

end Runs

/-- Both cameras shoot a frame at the same time, 25 times a second. -/
def shots (round : Nat) : List Action :=
  let timestamp : Timespec := ⟨round / 25, (round % 25 * 40000000 : Nat)⟩
  List.replicate 2 (.camera .left timestamp) ++
    List.replicate 2 (.camera .right timestamp)

/-- `sync_thread` matches the frames of each round and pushes both. -/
def matchedRounds (rounds : Nat) : List Action :=
  (List.range rounds).flatMap fun round =>
    shots round ++ List.replicate 6 .sync

/-- The state in which the writer has the first pair in hand, with the
trace. -/
def inHand : State × List Event :=
  (pipeline.execute (fun _ _ => True) initial
    (matchedRounds 1 ++ List.replicate 3 .writer)).get (by decide +kernel)

theorem saved_matched_iff_example :
    (⟨1, 0, 0⟩, ⟨1, 0, 0⟩) ∈ matchedPairs inHand.2 ∧
        Matches ⟨1, 0, 0⟩ ⟨1, 0, 0⟩ ↔
      (tally .left inHand.2).droppedAtPop =
        (tally .right inHand.2).droppedAtPop := by
  have run : pipeline.Run initial inHand.2 inHand.1 :=
    Machine.execute_get_runWithin _
  have events : (step inHand.1 .writer).map Prod.snd =
      some [.saved ⟨1, 0, 0⟩ ⟨1, 0, 0⟩] := by
    decide +kernel
  obtain ⟨⟨next, _⟩, taken, rfl⟩ := Option.map_eq_some_iff.mp events
  exact saved_matched_iff run taken (List.mem_singleton_self _)

/-- With both buffers full the writer pops between the pushes of the next
pair. -/
def tornSchedule : List Action :=
  matchedRounds 64 ++ shots 64 ++ List.replicate 5 .sync ++
    List.replicate 3 .writer

/-- The state it leads to, with the trace. -/
def torn : State × List Event :=
  (pipeline.execute (fun _ _ => True) initial tornSchedule).get
    (by decide +kernel)

theorem torn_pair_saved :
    ∃ (trace : List Event) (state next : State) (left right : Frame),
      pipeline.Run initial trace state ∧
        step state .writer = some (next, [.saved left right]) ∧
        (left, right) ∉ matchedPairs trace ∧ ¬ Matches left right := by
  let left : Frame := ⟨2, 0, 40000000⟩
  let right : Frame := ⟨1, 0, 0⟩
  have run : pipeline.Run initial torn.2 torn.1 :=
    Machine.execute_get_runWithin _
  obtain ⟨events, unmatched⟩ :
      (step torn.1 .writer).map Prod.snd = some [.saved left right] ∧
        (left, right) ∉ matchedPairs torn.2 := by
    decide +kernel
  obtain ⟨⟨next, _⟩, taken, rfl⟩ := Option.map_eq_some_iff.mp events
  exact ⟨torn.2, torn.1, next, left, right, run, taken, unmatched,
    by decide +kernel⟩

end SysOp.Lab6
