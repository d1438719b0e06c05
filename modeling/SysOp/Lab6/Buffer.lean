import SysOp.Foundation.Ring
import Mathlib.Data.Vector.Basic

/-!
# Frames and frame buffers

`frame_buffer_t` is a circular array in which a push to a full buffer drops
the oldest frame.  Read from the outside it is the list of its frames, oldest
first.

`push`, `front` and `pop` are what `buffer_push` and `buffer_pop` do under the
mutex.
-/

namespace SysOp.Lab6

open SysOp.Foundation

abbrev SYNC_TOLERANCE_MS : Rat := 20

/-- Circular buffer size. -/
abbrev BUFFER_SIZE : Nat := 64

structure Timespec where
  tvSec : Int
  tvNsec : Int
  deriving DecidableEq

structure Frame where
  frameId : Int
  timestamp : Timespec
  deriving DecidableEq

instance : Inhabited Frame := ⟨⟨0, ⟨0, 0⟩⟩⟩

/-- In exact arithmetic, where the source computes in `double`. -/
def timeDiffMs (start finish : Timespec) : Rat :=
  let startMs : Rat := start.tvSec * 1000 + start.tvNsec / 1000000
  let finishMs : Rat := finish.tvSec * 1000 + finish.tvNsec / 1000000
  finishMs - startMs

/-- Whether `sync_thread` takes two frames for a stereo pair. -/
def Matches (left right : Frame) : Prop :=
  let diff := timeDiffMs left.timestamp right.timestamp
  (if diff < 0 then -diff else diff) < SYNC_TOLERANCE_MS

instance (left right : Frame) : Decidable (Matches left right) :=
  inferInstanceAs (Decidable (_ < _))

/-- `head` is the write index and `tail` the read index. -/
structure FrameBuffer where
  buffer : Vector Frame BUFFER_SIZE
  head : Nat
  tail : Nat
  count : Nat

namespace FrameBuffer

/-- `buffer_init`; the slots are static memory. -/
def init : FrameBuffer where
  buffer := Vector.replicate BUFFER_SIZE default
  head := 0
  tail := 0
  count := 0

/-- Whether `buffer_push` drops the oldest frame. -/
def isFull (buf : FrameBuffer) : Bool := decide (buf.count = BUFFER_SIZE)

def front (buf : FrameBuffer) : Frame := buf.buffer[buf.tail]?.getD default

/-- Take the oldest frame out. -/
def pop (buf : FrameBuffer) : FrameBuffer :=
  { buf with
    tail := (buf.tail + 1) % BUFFER_SIZE
    count := buf.count - 1 }

/-- Write behind the newest frame. -/
def append (buf : FrameBuffer) (frame : Frame) : FrameBuffer :=
  { buf with
    buffer := buf.buffer.setIfInBounds buf.head frame
    head := (buf.head + 1) % BUFFER_SIZE
    count := buf.count + 1 }

def push (buf : FrameBuffer) (frame : Frame) : FrameBuffer :=
  (if buf.isFull then buf.pop else buf).append frame

/-- What a push drops. -/
def evicted (buf : FrameBuffer) : List Frame :=
  if buf.isFull then [buf.front] else []

/-- The frames held, oldest first. -/
def frames (buf : FrameBuffer) : List Frame :=
  (List.range buf.count).map fun position =>
    buf.buffer[(buf.tail + position) % BUFFER_SIZE]?.getD default

/-- The indices and the count describe a stretch of the array. -/
structure Holds (buf : FrameBuffer) (items : List Frame) : Prop where
  slots : RingHolds buf.buffer buf.tail buf.head items
  counted : buf.count = items.length

abbrev WellFormed (buf : FrameBuffer) : Prop := buf.Holds buf.frames

variable {buf : FrameBuffer} {frame : Frame} {items : List Frame}

theorem Holds.frames_eq (held : buf.Holds items) : buf.frames = items := by
  apply List.ext_getElem?
  intro position
  rcases Nat.lt_or_ge position items.length with stored | beyond
  · simp [frames, held.counted, stored, held.slots.slot stored]
  · rw [List.getElem?_eq_none beyond, List.getElem?_eq_none]
    simp [frames, held.counted, beyond]

theorem Holds.wellFormed (held : buf.Holds items) : buf.WellFormed := by
  rw [WellFormed, held.frames_eq]
  exact held

theorem init_holds : init.Holds [] where
  slots := .empty _ (by decide)
  counted := rfl

theorem Holds.pop (held : buf.Holds (frame :: items)) :
    buf.pop.Holds items where
  slots := held.slots.pop
  counted := by simp [FrameBuffer.pop, held.counted]

theorem Holds.front_eq (held : buf.Holds (frame :: items)) :
    buf.front = frame := by
  rw [front, held.slots.front]
  rfl

theorem Holds.append (held : buf.Holds items)
    (room : items.length < BUFFER_SIZE) (frame : Frame) :
    (buf.append frame).Holds (items ++ [frame]) where
  slots := held.slots.push room frame
  counted := by simp [FrameBuffer.append, held.counted]

theorem isFull_iff (held : buf.Holds items) :
    buf.isFull ↔ items.length = BUFFER_SIZE := by
  simp [isFull, held.counted]

/-- A push to a full buffer loses its oldest frame and no other. -/
theorem Holds.push (held : buf.Holds items) (frame : Frame) :
    (buf.push frame).Holds
      ((if buf.isFull then items.tail else items) ++ [frame]) := by
  have fits := held.slots.fits
  have full := isFull_iff held
  unfold FrameBuffer.push
  by_cases isFull : buf.isFull
  · rw [if_pos isFull, if_pos isFull]
    have length := full.mp isFull
    cases items with
    | nil => simp at length
    | cons oldest rest =>
        apply held.pop.append
        rw [List.length_cons] at length
        exact Nat.lt_of_succ_le (Nat.le_of_eq length)
  · rw [if_neg isFull, if_neg isFull]
    apply held.append
    rw [full] at isFull
    omega

theorem WellFormed.push (formed : buf.WellFormed) (frame : Frame) :
    (buf.push frame).WellFormed :=
  (Holds.push formed frame).wellFormed

theorem WellFormed.pop (formed : buf.WellFormed) (stored : buf.count ≠ 0) :
    buf.pop.WellFormed ∧ buf.frames = buf.front :: buf.pop.frames := by
  cases contents : buf.frames with
  | nil =>
      have counted := formed.counted
      rw [contents] at counted
      exact absurd counted stored
  | cons oldest rest =>
      have held : buf.Holds (oldest :: rest) := contents ▸ formed
      refine ⟨held.pop.wellFormed, ?_⟩
      rw [held.front_eq, held.pop.frames_eq]

/-- What a push drops and what it leaves are what was there and the new
frame. -/
theorem evicted_append_frames_push (formed : buf.WellFormed) (frame : Frame) :
    buf.evicted ++ (buf.push frame).frames = buf.frames ++ [frame] := by
  rw [(Holds.push formed frame).frames_eq, evicted]
  by_cases isFull : buf.isFull
  · have stored : buf.count ≠ 0 := by
      rw [formed.counted, (isFull_iff formed).mp isFull]
      decide
    rw [if_pos isFull, if_pos isFull, (formed.pop stored).2]
    rfl
  · rw [if_neg isFull, if_neg isFull, List.nil_append]

/-- A push to a buffer is at the expense of its oldest frame. -/
theorem frames_push_sublist (formed : buf.WellFormed) (frame : Frame) :
    List.Sublist (buf.push frame).frames (buf.frames ++ [frame]) := by
  rw [← evicted_append_frames_push formed]
  exact List.sublist_append_right ..

end FrameBuffer

end SysOp.Lab6
