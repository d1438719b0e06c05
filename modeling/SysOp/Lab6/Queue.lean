import SysOp.Foundation.BoundedQueue
import SysOp.Lab6.Pipeline

/-!
# The circular buffer as a queue

Whatever threads call `buffer_push` and `buffer_pop`, the mutex puts the calls
in one order, in which a waiting pop stands where it returns.  In that order
the buffer is a bounded queue that drops its oldest frame.
-/

namespace SysOp.Lab6

open SysOp.Foundation BoundedQueue

/-- One call on a buffer.  For a pop, `waits` is `*is_running` and the target
is `*frame`; a call that waits is disabled. -/
def FrameBuffer.call (buf : FrameBuffer) :
    QueueCall Frame → Option (FrameBuffer × List (QueueReturn Frame))
  | .push frame => some (buf.push frame, [.pushed frame buf.evicted.head?])
  | .pop isRunning target =>
      match bufferPop isRunning buf .entering with
      | some (after, .popped frame) => some (after, [.popped true frame])
      | some (after, .aborted) => some (after, [.popped false target])
      | _ => none

def frameBuffer :
    Machine FrameBuffer (QueueCall Frame) (QueueReturn Frame) where
  start := .init
  step := FrameBuffer.call

/-- The indices and the count agree. -/
structure FrameBuffer.WellIndexed (buf : FrameBuffer) : Prop where
  count_le : buf.count ≤ BUFFER_SIZE
  head_lt : buf.head < BUFFER_SIZE
  tail_lt : buf.tail < BUFFER_SIZE
  head_eq : buf.head = (buf.tail + buf.count) % BUFFER_SIZE

/-- The buffer does on its frames what the bounded queue does on the same
list, up to now and in the next call, and its history is that of a bounded
queue. -/
structure RefinesQueue (trace : List (QueueReturn Frame)) (buf : FrameBuffer) :
    Prop where
  indexed : buf.WellIndexed
  refines : (boundedQueue Frame BUFFER_SIZE).Run [] trace buf.frames
  answers : ∀ call : QueueCall Frame,
    (buf.call call).map (fun (after, events) => (after.frames, events)) =
      (boundedQueue Frame BUFFER_SIZE).step buf.frames call
  untouched : buf.count = 0 → ∀ target : Frame,
    buf.call (.pop false target) = some (buf, [.popped false target])
  sublist : List.Sublist (pops trace ++ buf.frames) (pushes trace)
  counted : (pushes trace).length =
    (pops trace).length + (drops trace).length + buf.count
  ordered : pushes trace =
    (departures trace).map Departure.item ++ buf.frames
  missing : ∀ (position : Nat) (frame : Frame),
    (departures trace)[position]? = some (.dropped frame) →
    ∃ earlier newest later,
      trace = earlier ++ .pushed newest (some frame) :: later ∧
      (departures earlier).length = position ∧
      (pushes earlier).length + 1 = position + 1 + BUFFER_SIZE

section Calls

variable {buf next : FrameBuffer} {events : List (QueueReturn Frame)}
  {called : QueueCall Frame}

theorem FrameBuffer.WellFormed.wellIndexed (formed : buf.WellFormed) :
    buf.WellIndexed where
  count_le := formed.counted ▸ formed.slots.fits
  head_lt := formed.slots.tail_lt
  tail_lt := formed.slots.head_lt
  head_eq := by rw [formed.slots.tail_eq, ← formed.counted]

theorem FrameBuffer.WellFormed.frames_eq_nil_iff (formed : buf.WellFormed) :
    buf.frames = [] ↔ buf.count = 0 := by
  rw [← List.length_eq_zero_iff, ← formed.counted]

/-- A push drops the oldest frame of a full buffer. -/
theorem FrameBuffer.WellFormed.evicted_head? (formed : buf.WellFormed) :
    buf.evicted.head? =
      if buf.frames.length = BUFFER_SIZE then buf.frames.head? else none := by
  have full := isFull_iff formed
  by_cases isFull : buf.isFull
  · have stored : buf.count ≠ 0 := by
      rw [formed.counted, full.mp isFull]
      decide
    rw [evicted, if_pos isFull, if_pos (full.mp isFull), (formed.pop stored).2]
    rfl
  · rw [evicted, if_neg isFull, if_neg (mt full.mpr isFull)]
    rfl

theorem FrameBuffer.WellFormed.frames_push (formed : buf.WellFormed)
    (frame : Frame) :
    (buf.push frame).frames =
      (if buf.frames.length = BUFFER_SIZE then buf.frames.tail
        else buf.frames) ++ [frame] := by
  rw [(Holds.push formed frame).frames_eq]
  simp only [isFull_iff formed]

/-- One call commutes with reading the frames off the buffer. -/
theorem FrameBuffer.WellFormed.answers (formed : buf.WellFormed)
    (called : QueueCall Frame) :
    (buf.call called).map (fun (after, events) => (after.frames, events)) =
      (boundedQueue Frame BUFFER_SIZE).step buf.frames called := by
  cases called with
  | push frame =>
      simp only [FrameBuffer.call, boundedQueue, Option.map_some,
        formed.frames_push, formed.evicted_head?]
      split <;> rfl
  | pop isRunning target =>
      by_cases empty : buf.count = 0
      · simp only [FrameBuffer.call, bufferPop, empty, if_true,
          formed.frames_eq_nil_iff.mpr empty]
        cases isRunning with
        | true => rfl
        | false => simp [boundedQueue, formed.frames_eq_nil_iff.mpr empty]
      · simp [FrameBuffer.call, bufferPop, empty, (formed.pop empty).2,
          boundedQueue]

theorem FrameBuffer.WellFormed.call (formed : buf.WellFormed)
    (taken : buf.call called = some (next, events)) : next.WellFormed := by
  cases called with
  | push frame =>
      cases taken
      exact formed.push frame
  | pop isRunning target =>
      by_cases empty : buf.count = 0
      · simp only [FrameBuffer.call, bufferPop, empty, if_true] at taken
        cases isRunning with
        | true => cases taken
        | false =>
            cases taken
            exact formed
      · simp only [FrameBuffer.call, bufferPop, empty, if_false] at taken
        cases taken
        exact (formed.pop empty).1

end Calls

section Runs

variable {trace : List (QueueReturn Frame)} {buf : FrameBuffer}

theorem run_simulates (run : frameBuffer.Run .init trace buf) :
    buf.WellFormed ∧
      (boundedQueue Frame BUFFER_SIZE).Run [] trace buf.frames := by
  refine run.history (fun past reached => reached.WellFormed ∧
    (boundedQueue Frame BUFFER_SIZE).Run [] past reached.frames) ?_ ?_
  · refine ⟨FrameBuffer.init_holds.wellFormed, ?_⟩
    rw [FrameBuffer.init_holds.frames_eq]
    exact .refl []
  · rintro past reached called next events ⟨formed, simulated⟩ _ taken
    have square := formed.answers called
    have calls : reached.call called = some (next, events) := taken
    rw [calls, Option.map_some] at square
    exact ⟨formed.call calls, simulated.tail trivial square.symm⟩

/-- From `buffer_init` on the buffer is a bounded queue. -/
theorem run_refinesQueue (run : frameBuffer.Run .init trace buf) :
    RefinesQueue trace buf := by
  obtain ⟨formed, simulated⟩ := run_simulates run
  have kept := run_kept (by decide) simulated
  refine ⟨formed.wellIndexed, simulated, formed.answers, ?_, kept.sublist, ?_,
    kept.ordered, kept.missing⟩
  · intro empty target
    simp [FrameBuffer.call, bufferPop, empty]
  · rw [formed.counted]
    exact kept.counted

end Runs

/-- One push more than fits, and two pops. -/
def overflowing : List (QueueCall Frame) :=
  (List.range (BUFFER_SIZE + 1)).map (fun id => .push ⟨id, 0, 0⟩) ++
    [.pop true default, .pop false default]

theorem run_refinesQueue_example :
    RefinesQueue
      ((frameBuffer.execute (fun _ _ => True) .init overflowing).get
        (by decide +kernel)).2
      ((frameBuffer.execute (fun _ _ => True) .init overflowing).get
        (by decide +kernel)).1 :=
  run_refinesQueue (Machine.execute_get_runWithin _)

end SysOp.Lab6
