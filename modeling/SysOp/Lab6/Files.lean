import SysOp.Foundation.Text
import SysOp.Lab6.Pairing

/-!
# The files of the writer

`image_writer_thread` of levels two and three writes two files for each pair it
saves.  Their names come from the ids of the frames, so no file is written twice
as long as no id is: the frames of a side go to the writer in the order in which
its camera numbers them.
-/

namespace SysOp.Lab6

open SysOp.Foundation

/-- `%04d`: the zeros stand behind the sign. -/
def decimal04 (n : Int) : Bytes :=
  let digits := (numeral 10 n.natAbs).map digitByte
  let sign : Bytes := if n < 0 then [45] else []
  sign ++ List.replicate (4 - sign.length - digits.length) 48 ++ digits

def Side.word : Side → Bytes
  | .left => bytes "left"
  | .right => bytes "right"

/-- The size of `filename_left` and `filename_right`. -/
abbrev FILENAME_SIZE : Nat := 64

/-- `filename_left` and `filename_right`. -/
def filename (side : Side) (frame : Frame) : Bytes :=
  snprintf FILENAME_SIZE
    (bytes "output/" ++ side.word ++ bytes "_" ++ decimal04 frame.frameId ++
      bytes ".jpg")

/-- What is printed to the file. -/
def imageText (side : Side) (frame : Frame) : Bytes :=
  bytes "Sync " ++ bytes (match side with | .left => "L" | .right => "R") ++
    bytes ": " ++ decimal frame.frameId ++ bytes "\n"

/-- The files a pair is written to, with their contents. -/
def images (pair : Frame × Frame) : List (Bytes × Bytes) :=
  [(filename .left pair.1, imageText .left pair.1),
    (filename .right pair.2, imageText .right pair.2)]

theorem mem_images {pair : Frame × Frame} {name content : Bytes} :
    (name, content) ∈ images pair ↔ ∃ side : Side,
      name = filename side (side.of pair) ∧
        content = imageText side (side.of pair) := by
  rw [images, List.mem_pair, Prod.mk.injEq, Prod.mk.injEq]
  constructor
  · rintro (left | right)
    · exact ⟨.left, left⟩
    · exact ⟨.right, right⟩
  · rintro ⟨side, same⟩
    cases side with
    | left => exact .inl same
    | right => exact .inr same

/-- The pairs the writer has saved. -/
def savedPairs (trace : List Event) : List (Frame × Frame) :=
  trace.filterMap fun
    | .saved left right => some (left, right)
    | _ => none

/-- The directory after the writer has written these files in this order;
`fopen` with `"w"` empties one that is there, and may fail. -/
def directory (opens : Bytes → Bool) (files : List (Bytes × Bytes)) :
    Bytes → Option Bytes :=
  files.foldl (fun content file =>
    if opens file.1 then Function.update content file.1 (some file.2)
    else content) fun _ => none

section Names

theorem readNumeral_zeros (zeros : Nat) (digits : List Nat) :
    readNumeral 10 0 (List.replicate zeros 0 ++ digits) =
      readNumeral 10 0 digits := by
  induction zeros with
  | zero => rfl
  | succ zeros inductionHypothesis =>
      rw [List.replicate_succ, List.cons_append, readNumeral_cons]
      exact inductionHypothesis

/-- A sign and digits are read as they stand. -/
theorem scanInt_digits {body : Bytes} (digits : ∀ byte ∈ body, isdigit byte)
    (written : body ≠ []) (negative : Bool) :
    scanInt ((if negative then [45] else []) ++ body) =
      signedValue negative (body.map digitValue) := by
  obtain ⟨byte, rest, rfl⟩ := List.exists_cons_of_ne_nil written
  have digit := digits byte List.mem_cons_self
  have solid := not_isspace_of_isdigit digit
  have unsign := not_sign_of_isdigit digit
  have read := List.takeWhile_eq_self_iff.mpr digits
  cases negative with
  | true =>
      have minus : ¬ isspace 45 := by decide
      change scanInt (45 :: byte :: rest) = _
      rw [scanInt, isNegative_cons_of_not_isspace minus, digitsRead,
        unsigned_cons_of_sign (.inl rfl), read]
      rfl
  | false =>
      change scanInt (byte :: rest) = _
      have plain : decide (byte = 45) = false :=
        decide_eq_false fun minus => unsign (.inl minus)
      rw [scanInt, isNegative_cons_of_not_isspace solid, plain, digitsRead,
        unsigned_cons_of_plain solid unsign, read]

/-- What `%04d` prints is read back. -/
theorem scanInt_decimal04 (n : Int) : scanInt (decimal04 n) = some n := by
  obtain ⟨zeros, same⟩ : ∃ zeros, decimal04 n =
      (if decide (n < 0) then [45] else []) ++
        (List.replicate zeros 48 ++ (numeral 10 n.natAbs).map digitByte) := by
    refine ⟨4 - (if n < 0 then [45] else [] : Bytes).length -
      ((numeral 10 n.natAbs).map digitByte).length, ?_⟩
    rw [decimal04, List.append_assoc]
    simp only [decide_eq_true_eq]
  have digits : ∀ byte ∈
      List.replicate zeros 48 ++ (numeral 10 n.natAbs).map digitByte,
      isdigit byte := by
    intro byte member
    rcases List.mem_append.mp member with zero | digit
    · rw [List.eq_of_mem_replicate zero]
      decide
    · exact isdigit_of_mem_digits digit
  have written : List.replicate zeros 48 ++
      (numeral 10 n.natAbs).map digitByte ≠ [] := by
    rw [ne_eq, List.append_eq_nil_iff, List.map_eq_nil_iff, not_and]
    exact fun _ => numeral_ne_nil _
  have values : (List.replicate zeros 48 ++
      (numeral 10 n.natAbs).map digitByte).map digitValue =
        List.replicate zeros 0 ++ numeral 10 n.natAbs := by
    rw [List.map_append, digitValue_digits, List.map_replicate]
    rfl
  have present : List.replicate zeros 0 ++ numeral 10 n.natAbs ≠ [] := by
    rw [ne_eq, List.append_eq_nil_iff, not_and]
    exact fun _ => numeral_ne_nil _
  rw [same, scanInt_digits digits written, values, signedValue, if_neg present,
    readNumeral_zeros, readNumeral_numeral]
  split
  next negative =>
    have negative := of_decide_eq_true negative
    congr 1
    omega
  next positive =>
    have positive : ¬ n < 0 := fun negative => positive (decide_eq_true negative)
    congr 1
    omega

theorem decimal04_injective : Function.Injective decimal04 := by
  intro n m same
  have read := scanInt_decimal04 n
  rw [same, scanInt_decimal04] at read
  exact (Option.some.inj read).symm

theorem length_decimal04_le {n : Int} (small : IsInt n) :
    (decimal04 n).length ≤ 11 := by
  have bounded : n.natAbs < 10 ^ 10 := by
    obtain ⟨above, below⟩ := isInt_iff.mp small
    omega
  have digits : (numeral 10 n.natAbs).length ≤ 10 :=
    length_numeral_le (by decide) (by decide) bounded
  unfold decimal04
  split <;> simp only [List.length_append, List.length_replicate,
    List.length_map, List.length_singleton, List.length_nil] <;> omega

/-- A name of the writer is never cut off. -/
theorem filename_eq (side : Side) {frame : Frame}
    (small : IsInt frame.frameId) :
    filename side frame =
      bytes "output/" ++ (side.word ++ (bytes "_" ++
        (decimal04 frame.frameId ++ bytes ".jpg"))) := by
  have bounded := length_decimal04_le small
  have word : side.word.length ≤ 5 := by cases side <;> decide
  have first : (bytes "output/").length = 7 := by decide
  have middle : (bytes "_").length = 1 := by decide
  have last : (bytes ".jpg").length = 4 := by decide
  have size : FILENAME_SIZE = 64 := rfl
  rw [filename, snprintf_of_length_lt]
  · simp only [List.append_assoc]
  · simp only [List.length_append]
    omega

theorem filename_inj {side other : Side} {frame there : Frame}
    (small : IsInt frame.frameId) (smallThere : IsInt there.frameId)
    (same : filename side frame = filename other there) :
    side = other ∧ frame.frameId = there.frameId := by
  rw [filename_eq side small, filename_eq other smallThere] at same
  have rest := List.append_cancel_left same
  by_cases word : side = other
  · subst word
    have name := List.append_cancel_left (List.append_cancel_left rest)
    exact ⟨rfl, decimal04_injective (List.append_cancel_right name)⟩
  · have first := congrArg List.head? rest
    cases side <;> cases other <;>
      first
        | exact absurd rfl word
        | (rw [List.head?_append_of_ne_nil _ (by decide),
            List.head?_append_of_ne_nil _ (by decide)] at first
           exact absurd first (by decide))

end Names

section History

theorem savedPairs_append (earlier later : List Event) :
    savedPairs (earlier ++ later) = savedPairs earlier ++ savedPairs later :=
  List.filterMap_append

@[simp]
theorem savedPairs_pushEvents (stage : Stage) (side : Side)
    (buf : FrameBuffer) (frame : Frame) :
    savedPairs (pushEvents stage side buf frame) = [] := by
  simp only [pushEvents, savedPairs, FrameBuffer.evicted]
  split <;> rfl

theorem ReadMove.savedPairs {Work : Type} {stage : Stage}
    {work : Frame → Frame → Work} {isRunning : Bool}
    {bufs after : Sides FrameBuffer} {reader later : Reader Work}
    {events : List Event}
    (move : ReadMove stage work isRunning bufs reader after later events) :
    savedPairs events = [] := by
  cases move <;> rfl

end History

/-- The frames the writer has popped and not saved. -/
def Reader.inHand (side : Side) : Reader WriterWork → List Frame
  | .poppingRight left _ =>
      match side with
      | .left => [left]
      | .right => []
  | .working (.saving left right) => [side.of (left, right)]
  | _ => []

@[simp]
theorem Reader.inHand_wake (reader : Reader WriterWork) (side other : Side) :
    (reader.wake side).inHand other = reader.inHand other := by
  cases reader with
  | poppingLeft wait | poppingRight first wait =>
      cases wait <;> cases side <;> rfl
  | _ => rfl

/-- The frames of a side from the matching to the files. -/
def State.outgoing (state : State) (side : Side) (trace : List Event) :
    List Frame :=
  (savedPairs trace).map side.of ++ state.writer.inHand side ++
    (state.syncBufs.get side).frames ++ state.sync.unsent side

section Steps

variable {state next : State} {action : Action} {trace events : List Event}

theorem ReadMove.inHand {isRunning : Bool} {bufs after : Sides FrameBuffer}
    {reader later : Reader WriterWork}
    (move : ReadMove .sync .saving isRunning bufs reader after later events)
    (formed : ∀ side, (bufs.get side).WellFormed) (side : Side) :
    List.Sublist (later.inHand side ++ (after.get side).frames)
      (reader.inHand side ++ (bufs.get side).frames) := by
  cases move with
  | popLeft stored =>
      have popped := ((formed .left).pop stored).2
      simp only [Sides.get] at popped
      cases side with
      | left => simp [Reader.inHand, Sides.get, popped]
      | right => simp [Reader.inHand, Sides.get]
  | popRight stored =>
      have popped := ((formed .right).pop stored).2
      simp only [Sides.get] at popped
      cases side with
      | left => simp [Reader.inHand, Sides.get, Side.of]
      | right => simp [Reader.inHand, Sides.get, Side.of, popped]
  | abortRight => simp [Reader.inHand]
  | _ => exact List.Sublist.refl _

theorem frames_push_append {bufs : Sides FrameBuffer} {side : Side}
    (formed : (bufs.get side).WellFormed) (other : Side) (frame : Frame)
    (rest : List Frame) :
    (((bufs.set side ((bufs.get side).push frame)).get other).frames ++
        rest).Sublist
      ((bufs.get other).frames ++
        ((if other = side then [frame] else []) ++ rest)) := by
  rw [Sides.get_set]
  by_cases same : other = side
  · subst same
    have fewer := FrameBuffer.frames_push_sublist formed frame
    simpa using fewer.append_right rest
  · simp [same]

variable (trace) in
/-- A frame is on its way out from its match on, and is lost or saved. -/
theorem Move.outgoing (move : Move state action next events)
    (formed : ∀ side, (state.syncBufs.get side).WellFormed) (side : Side) :
    (next.outgoing side (trace ++ events)).Sublist
        (state.outgoing side trace) ∧ matchedPairs events = [] ∨
      ∃ pair, matchedPairs events = [pair] ∧
        next.outgoing side (trace ++ events) =
          state.outgoing side trace ++ [side.of pair] := by
  unfold State.outgoing
  rw [savedPairs_append]
  cases move with
  | create | stop | interrupt =>
      exact .inl ⟨by simp [savedPairs], rfl⟩
  | shoot =>
      refine .inl ⟨?_, matchedPairs_pushEvents ..⟩
      simp
  | syncRead moved =>
      obtain ⟨_, none, noneAfter⟩ := moved.cam trace side
      refine .inl ⟨?_, moved.matchedPairs⟩
      simp [none, noneAfter, moved.savedPairs]
  | @pair left right here matching =>
      refine .inr ⟨_, rfl, ?_⟩
      simp [here, Reader.unsent, savedPairs]
  | discard here =>
      refine .inl ⟨?_, rfl⟩
      simp [here, Reader.unsent, savedPairs]
  | @forwardLeft left right here free =>
      refine .inl ⟨?_, matchedPairs_pushEvents ..⟩
      have fewer := frames_push_append (formed .left) side left
        ((Reader.working (.pushingRight right)).unsent side)
      rw [savedPairs_pushEvents, List.append_nil, here]
      cases side with
      | left => simpa [Reader.unsent, Side.of] using fewer
      | right => simp [Reader.unsent, Side.of]
  | @forwardRight right here free =>
      refine .inl ⟨?_, matchedPairs_pushEvents ..⟩
      have fewer := frames_push_append (formed .right) side right []
      rw [savedPairs_pushEvents, List.append_nil, here]
      cases side with
      | left => simp [Reader.unsent]
      | right => simpa [Reader.unsent] using fewer
  | writerRead moved =>
      refine .inl ⟨?_, moved.matchedPairs⟩
      have fewer := moved.inHand formed side
      rw [moved.savedPairs, List.append_nil]
      simpa using (fewer.append_right (state.sync.unsent side)).append_left
        ((savedPairs trace).map side.of)
  | @save left right here =>
      refine .inl ⟨?_, rfl⟩
      simp [here, Reader.inHand, savedPairs]
  | @broadcast stage | @spurious stage =>
      refine .inl ⟨?_, rfl⟩
      cases stage <;> simp [State.wake, savedPairs]

end Steps

section Runs

variable {trace : List Event} {state : State}

theorem run_outgoing (run : pipeline.Run initial trace state) (side : Side) :
    (state.outgoing side trace).Sublist (stream side trace) := by
  have both := run.history (fun past now => Paired past now ∧
    (now.outgoing side past).Sublist (stream side past))
    ⟨paired_initial, ?_⟩ ?_
  · exact both.2
  · cases side <;> exact List.Sublist.refl _
  · rintro past now action next events ⟨paired, ordered⟩ _ taken
    have move := step_move taken
    refine ⟨move.paired paired, ?_⟩
    have formed := fun side => (paired.formed side).2
    rcases move.outgoing past formed side with
      ⟨fewer, none⟩ | ⟨pair, single, same⟩
    · rw [stream_append_of_nil none]
      exact fewer.trans ordered
    · rw [same, stream_append]
      simpa [stream, single] using ordered.append_right [side.of pair]

/-- A camera begins with 1. -/
theorem run_ids_pos (run : pipeline.Run initial trace state) (side : Side) :
    ∀ id ∈ state.ids side trace, 1 ≤ id := by
  have both := run.history (fun past now => Paired past now ∧
    ∀ id ∈ now.ids side past, 1 ≤ id) ⟨paired_initial, ?_⟩ ?_
  · exact both.2
  · cases side <;> simp [initial, State.ids, stream, matchedPairs,
      Reader.held, Camera.pending, Sides.get, FrameBuffer.init_holds.frames_eq]
  · rintro past now action next events ⟨paired, positive⟩ _ taken
    have move := step_move taken
    refine ⟨move.paired paired, fun id member => ?_⟩
    rcases move.ids past (fun side => (paired.formed side).1) side with
      fewer | longer
    · exact positive id (fewer.subset member)
    · rw [longer] at member
      rcases List.mem_append.mp member with before | isNext
      · exact positive id before
      · rw [List.mem_singleton.mp isNext]
        have last : 1 ≤ (now.cameras.get side).nextId :=
          positive _ (List.mem_append_right _ (List.mem_singleton_self _))
        omega

/-- The writer saves the frames of a side in the order of their ids. -/
theorem run_saved (run : pipeline.Run initial trace state) (side : Side) :
    ((savedPairs trace).map fun pair => (side.of pair).frameId).Pairwise
        (· < ·) ∧
      ∀ pair ∈ savedPairs trace, 1 ≤ (side.of pair).frameId ∧
        (side.of pair).frameId < (state.cameras.get side).nextId := by
  have ordered := (run_paired run).ordered side
  have positive := run_ids_pos run side
  have saved : ((savedPairs trace).map fun pair =>
      (side.of pair).frameId).Sublist
        ((stream side trace ++ state.sync.held side ++
          (state.camBufs.get side).frames ++
          (state.cameras.get side).pending).map Frame.frameId) := by
    have outgoing := run_outgoing run side
    simp only [State.outgoing, List.append_assoc] at outgoing
    have first := (List.sublist_append_left ..).trans outgoing
    have ids := first.map Frame.frameId
    rw [List.map_map] at ids
    simp only [List.append_assoc, List.map_append]
    exact ids.trans (List.sublist_append_left ..)
  rw [State.ids] at ordered positive
  obtain ⟨ids, _, below⟩ := List.pairwise_append.mp ordered
  refine ⟨ids.sublist saved, fun pair member => ?_⟩
  have listed := saved.subset (List.mem_map_of_mem member)
  exact ⟨positive _ (List.mem_append_left _ listed),
    below _ listed _ (List.mem_singleton_self _)⟩

/-- The files the writer has written, in this order. -/
def written (trace : List Event) : List (Bytes × Bytes) :=
  (savedPairs trace).flatMap images

section Directory

variable {opens : Bytes → Bool} {files : List (Bytes × Bytes)}
  {name content : Bytes}

theorem directory_append (file : Bytes × Bytes) :
    directory opens (files ++ [file]) =
      if opens file.1 then
        Function.update (directory opens files) file.1 (some file.2)
      else directory opens files :=
  List.foldl_append ..

/-- Where no name comes twice, every file has what was written to it. -/
theorem directory_eq_some_iff (distinct : (files.map Prod.fst).Nodup) :
    directory opens files name = some content ↔
      (name, content) ∈ files ∧ opens name := by
  induction files using List.reverseRecOn with
  | nil => simp [directory]
  | append_singleton files file inductionHypothesis =>
      rw [List.map_append, List.nodup_append] at distinct
      obtain ⟨earlier, _, apart⟩ := distinct
      have before := inductionHypothesis earlier
      have fresh (member : (name, content) ∈ files) : name ≠ file.1 :=
        apart name (List.mem_map_of_mem member) file.1 List.mem_cons_self
      obtain ⟨last, text⟩ := file
      rw [directory_append, List.mem_append, List.mem_singleton, Prod.mk.injEq]
      by_cases same : name = last
      · subst same
        have absent : (name, content) ∉ files := fun member => fresh member rfl
        have none : ¬ directory opens files name = some content :=
          fun found => absent (before.mp found).1
        by_cases opened : opens name
        · simp [opened, absent, eq_comm]
        · simp [opened, none]
      · by_cases opened : opens last
        · simp [opened, same, before]
        · simp [opened, same, before]

end Directory

/-- No file is written twice, and what is in the directory are the frames of the
saved pairs: as long as the ids fit, nothing is overwritten, cut off or mixed
up, whichever files can be opened. -/
theorem run_files (run : pipeline.Run initial trace state)
    (few : ∀ side, (state.cameras.get side).nextId ≤ INT_MAX)
    (opens : Bytes → Bool) :
    ((written trace).map Prod.fst).Nodup ∧
      ∀ name content, directory opens (written trace) name = some content ↔
        opens name ∧ ∃ pair ∈ savedPairs trace, ∃ side : Side,
          name = filename side (side.of pair) ∧
            content = imageText side (side.of pair) := by
  have small : ∀ pair ∈ savedPairs trace, ∀ side : Side,
      IsInt (side.of pair).frameId := by
    intro pair member side
    obtain ⟨positive, below⟩ := (run_saved run side).2 pair member
    have limit : (state.cameras.get side).nextId ≤ 2147483647 := few side
    rw [isInt_iff]
    omega
  have distinct : ((written trace).map Prod.fst).Nodup := by
    rw [written, List.map_flatMap, List.nodup_flatMap]
    constructor
    · intro pair member
      refine List.nodup_cons.mpr ⟨?_, List.nodup_singleton _⟩
      intro same
      have same := List.mem_singleton.mp same
      have clash := (filename_inj (small pair member .left)
        (small pair member .right) same).1
      cases clash
    · have lefts := List.pairwise_map.mp (run_saved run .left).1
      have rights := List.pairwise_map.mp (run_saved run .right).1
      refine (lefts.and rights).imp_of_mem ?_
      rintro earlier later first second ⟨left, right⟩
      intro name here there
      obtain ⟨⟨_, content⟩, listed, rfl⟩ := List.mem_map.mp here
      obtain ⟨⟨_, text⟩, again, same⟩ := List.mem_map.mp there
      obtain ⟨side, rfl, _⟩ := mem_images.mp listed
      obtain ⟨other, rfl, _⟩ := mem_images.mp again
      obtain ⟨rfl, id⟩ := filename_inj (small later second other)
        (small earlier first side) same
      cases other with
      | left => exact absurd id.symm left.ne
      | right => exact absurd id.symm right.ne
  refine ⟨distinct, fun name content => ?_⟩
  rw [directory_eq_some_iff distinct, and_comm, written]
  refine and_congr_right fun _ => ?_
  rw [List.mem_flatMap]
  exact exists_congr fun pair => and_congr_right fun _ => mem_images

end Runs

/-- The writer has saved the first pair. -/
def firstSaved : State × List Event :=
  (pipeline.execute (fun _ _ => True) initial
    (matchedRounds 1 ++ List.replicate 4 .writer)).get (by decide +kernel)

theorem run_files_firstSaved :
    directory (fun _ => true) (written firstSaved.2)
      (bytes "output/left_0001.jpg") = some (bytes "Sync L: 1\n") := by
  have run : pipeline.Run initial firstSaved.2 firstSaved.1 :=
    Machine.execute_get_runWithin _
  have few : ∀ side, (firstSaved.1.cameras.get side).nextId ≤ INT_MAX := by
    intro side
    cases side <;> decide +kernel
  have files := (run_files run few fun _ => true).2
  refine (files ..).mpr ⟨rfl, (⟨1, 0, 0⟩, ⟨1, 0, 0⟩), ?_, .left, ?_, ?_⟩ <;>
    decide +kernel

end SysOp.Lab6
