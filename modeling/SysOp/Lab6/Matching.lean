import SysOp.Lab6.Moves

/-!
# The matched frames

On each side the frames of the matched pairs are a stream, in which ids
strictly increase: a camera numbers its frames, and on the way to the
matching frames are only lost.
-/

namespace SysOp.Lab6

open SysOp.Foundation

/-- The pairs `sync_thread` has found to match. -/
def matchedPairs (trace : List Event) : List (Frame × Frame) :=
  trace.filterMap fun
    | .matched left right => some (left, right)
    | _ => none

def Side.of (side : Side) (pair : Frame × Frame) : Frame :=
  match side with
  | .left => pair.1
  | .right => pair.2

/-- The frames popped and not yet compared. -/
def Reader.held (side : Side) : Reader SyncWork → List Frame
  | .poppingRight left _ =>
      match side with
      | .left => [left]
      | .right => []
  | .working (.comparing left right) => [side.of (left, right)]
  | _ => []

def Camera.pending (camera : Camera) : List Frame :=
  match camera.point with
  | .pushing frame => [frame]
  | _ => []

/-- The stream of one side behind the matching. -/
def stream (side : Side) (trace : List Event) : List Frame :=
  (matchedPairs trace).map side.of

/-- The ids on one side, from the oldest match to the next frame. -/
def State.ids (state : State) (side : Side) (trace : List Event) : List Int :=
  (stream side trace ++ state.sync.held side ++
    (state.camBufs.get side).frames ++
    (state.cameras.get side).pending).map Frame.frameId ++
      [(state.cameras.get side).nextId]

section History

variable (side : Side) (earlier later : List Event)

@[simp]
theorem matchedPairs_append :
    matchedPairs (earlier ++ later) =
      matchedPairs earlier ++ matchedPairs later :=
  List.filterMap_append

theorem stream_append :
    stream side (earlier ++ later) = stream side earlier ++ stream side later := by
  simp [stream]

@[simp]
theorem matchedPairs_pushEvents (stage : Stage) (other : Side)
    (buf : FrameBuffer) (frame : Frame) :
    matchedPairs (pushEvents stage other buf frame) = [] := by
  simp only [pushEvents, matchedPairs, FrameBuffer.evicted]
  split <;> rfl

end History

@[simp]
theorem Reader.held_wake (reader : Reader SyncWork) (side other : Side) :
    (reader.wake side).held other = reader.held other := by
  cases reader with
  | poppingLeft wait | poppingRight first wait =>
      cases wait <;> cases side <;> rfl
  | _ => rfl

section Reading

variable {Work : Type} {stage : Stage} {work : Frame → Frame → Work}
  {isRunning : Bool} {bufs next : Sides FrameBuffer}
  {reader after : Reader Work} {events : List Event}

theorem ReadMove.formed
    (move : ReadMove stage work isRunning bufs reader next after events)
    (formed : ∀ side, (bufs.get side).WellFormed) (side : Side) :
    (next.get side).WellFormed := by
  cases move with
  | popLeft stored =>
      cases side with
      | left => exact ((formed .left).pop stored).1
      | right => exact formed .right
  | popRight stored =>
      cases side with
      | left => exact formed .left
      | right => exact ((formed .right).pop stored).1
  | _ => exact formed side

theorem ReadMove.matchedPairs
    (move : ReadMove stage work isRunning bufs reader next after events) :
    matchedPairs events = [] := by
  cases move <;> rfl

end Reading

theorem formed_push {bufs : Sides FrameBuffer}
    (formed : ∀ side, (bufs.get side).WellFormed) (side other : Side)
    (frame : Frame) :
    ((bufs.set side ((bufs.get side).push frame)).get other).WellFormed := by
  rw [Sides.get_set]
  split
  case isTrue => exact (formed side).push frame
  case isFalse => exact formed other

section Steps

variable {trace events : List Event} {state next : State} {action : Action}

theorem Move.formed (move : Move state action next events)
    (formed : ∀ side, (state.camBufs.get side).WellFormed ∧
      (state.syncBufs.get side).WellFormed) (side : Side) :
    (next.camBufs.get side).WellFormed ∧
      (next.syncBufs.get side).WellFormed := by
  have cam := fun side => (formed side).1
  have sync := fun side => (formed side).2
  cases move with
  | shoot => exact ⟨formed_push cam .., sync side⟩
  | syncRead moved => exact ⟨moved.formed cam side, sync side⟩
  | forwardLeft | forwardRight => exact ⟨cam side, formed_push sync ..⟩
  | writerRead moved => exact ⟨cam side, moved.formed sync side⟩
  | @broadcast stage | @spurious stage => cases stage <;> exact formed side
  | _ => exact formed side

/-- Only `sync_thread` matches, and only what it has tested. -/
theorem Move.matched (move : Move state action next events) :
    matchedPairs events = [] ∨ ∃ left right, Matches left right ∧
      matchedPairs events = [(left, right)] := by
  cases move with
  | pair here matching => exact .inr ⟨_, _, matching, rfl⟩
  | shoot | forwardLeft | forwardRight =>
      exact .inl (matchedPairs_pushEvents ..)
  | syncRead moved | writerRead moved => exact .inl moved.matchedPairs
  | _ => exact .inl rfl

theorem Move.tolerated (move : Move state action next events)
    (tolerated : ∀ pair ∈ matchedPairs trace, Matches pair.1 pair.2) :
    ∀ pair ∈ matchedPairs (trace ++ events), Matches pair.1 pair.2 := by
  intro pair membership
  rw [matchedPairs_append] at membership
  rcases List.mem_append.mp membership with old | new
  · exact tolerated pair old
  · rcases move.matched with none | ⟨left, right, matching, single⟩
    · simp [none] at new
    · rw [single, List.mem_singleton] at new
      rw [new]
      exact matching

theorem stream_append_of_nil (none : matchedPairs events = [])
    (side : Side) : stream side (trace ++ events) = stream side trace := by
  simp [stream, none]

/-- Frames leave the front or are skipped; none comes back. -/
theorem ids_sublist {later : List Event} {side : Side}
    (sameId : (next.cameras.get side).nextId =
      (state.cameras.get side).nextId)
    (fewer : List.Sublist
      (stream side later ++ next.sync.held side ++
        (next.camBufs.get side).frames ++ (next.cameras.get side).pending)
      (stream side trace ++ state.sync.held side ++
        (state.camBufs.get side).frames ++
          (state.cameras.get side).pending)) :
    List.Sublist (next.ids side later) (state.ids side trace) := by
  unfold State.ids
  rw [sameId]
  exact (fewer.map _).append (List.Sublist.refl _)

theorem ReadMove.held {isRunning : Bool} {bufs after : Sides FrameBuffer}
    {reader later : Reader SyncWork}
    (move : ReadMove .cam .comparing isRunning bufs reader after later events)
    (formed : ∀ side, (bufs.get side).WellFormed) (side : Side) :
    List.Sublist (later.held side ++ (after.get side).frames)
      (reader.held side ++ (bufs.get side).frames) := by
  cases move with
  | popLeft stored =>
      have popped := ((formed .left).pop stored).2
      simp only [Sides.get] at popped
      cases side with
      | left => simp [Reader.held, Sides.get, popped]
      | right => simp [Reader.held, Sides.get]
  | popRight stored =>
      have popped := ((formed .right).pop stored).2
      simp only [Sides.get] at popped
      cases side with
      | left => simp [Reader.held, Sides.get, Side.of]
      | right => simp [Reader.held, Sides.get, Side.of, popped]
  | abortRight => simp [Reader.held]
  | _ => exact List.Sublist.refl _

variable (trace) in
/-- The ids of a side lose some or gain the next one. -/
theorem Move.ids (move : Move state action next events)
    (formed : ∀ side, (state.camBufs.get side).WellFormed) (side : Side) :
    List.Sublist (next.ids side (trace ++ events)) (state.ids side trace) ∨
      next.ids side (trace ++ events) = state.ids side trace ++
        [(state.cameras.get side).nextId + 1] := by
  cases move with
  | @create other timestamp here running =>
      by_cases same : side = other
      · right
        subst same
        simp [State.ids, Camera.pending, here]
      · left
        apply ids_sublist <;> simp [same]
  | @stop other timestamp here stopped =>
      left
      by_cases same : side = other
      · subst same
        apply ids_sublist <;> simp [Camera.pending, here]
      · apply ids_sublist <;> simp [same]
  | @shoot other timestamp frame here free =>
      left
      by_cases same : side = other
      · subst same
        have fewer := FrameBuffer.frames_push_sublist (formed side) frame
        apply ids_sublist
        · simp
        · rw [stream_append_of_nil (matchedPairs_pushEvents ..)]
          simpa [Camera.pending, here] using fewer
      · apply ids_sublist
        · simp [same]
        · rw [stream_append_of_nil (matchedPairs_pushEvents ..)]
          simp [same]
  | syncRead moved =>
      left
      refine ids_sublist rfl ?_
      rw [stream_append_of_nil moved.matchedPairs]
      have fewer := moved.held formed side
      simpa using fewer.append_right (state.cameras.get side).pending
  | pair here matching =>
      left
      refine ids_sublist rfl ?_
      simp [stream, matchedPairs, here, Reader.held]
  | discard here =>
      left
      refine ids_sublist rfl ?_
      simp [Reader.held]
  | forwardLeft here free | forwardRight here free =>
      left
      refine ids_sublist rfl ?_
      rw [stream_append_of_nil (matchedPairs_pushEvents ..)]
      simp [Reader.held]
  | writerRead moved =>
      left
      refine ids_sublist rfl ?_
      rw [stream_append_of_nil moved.matchedPairs]
  | save here =>
      left
      refine ids_sublist rfl ?_
      rw [stream_append_of_nil rfl]
  | interrupt =>
      left
      rw [List.append_nil]
      exact List.Sublist.refl _
  | @broadcast stage | @spurious stage =>
      left
      rw [List.append_nil]
      cases stage with
      | cam => simp [State.ids, State.wake]
      | sync => exact List.Sublist.refl _

theorem Move.ordered (move : Move state action next events)
    (formed : ∀ side, (state.camBufs.get side).WellFormed) {side : Side}
    (ordered : (state.ids side trace).Pairwise (· < ·)) :
    (next.ids side (trace ++ events)).Pairwise (· < ·) := by
  rcases move.ids trace formed side with fewer | longer
  · exact ordered.sublist fewer
  · rw [longer, List.pairwise_append]
    refine ⟨ordered, List.pairwise_singleton .., ?_⟩
    intro earlier membership later last
    rw [List.mem_singleton] at last
    subst last
    have bounded : earlier ≤ (state.cameras.get side).nextId := by
      rw [State.ids, List.pairwise_append] at ordered
      rcases List.mem_append.mp membership with before | isNext
      · exact (ordered.2.2 _ before _ (List.mem_singleton_self _)).le
      · exact (List.mem_singleton.mp isNext).le
    exact Int.lt_add_one_of_le bounded

end Steps

end SysOp.Lab6
