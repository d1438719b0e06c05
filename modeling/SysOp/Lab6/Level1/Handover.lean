import SysOp.Foundation.Mailbox
import SysOp.Lab6.Level1.Freshness

/-!
# From `sync_thread` to `image_writer_thread`

The two frames and the flag are a mailbox with one slot, written and read one
field at a time under `sync_mutex`.
-/

namespace SysOp.Lab6.Level1

open SysOp.Foundation

/-- What an event means to the mailbox. -/
def Event.mail : Event → Option (MailEvent (Sides Frame))
  | .took _ => none
  | .stored pair => some (.put pair)
  | .looked => some .look
  | .saved pair => some (.deliver pair)

def handovers (trace : List Event) : List (MailEvent (Sides Frame)) :=
  trace.filterMap Event.mail

/-- What `image_writer_thread` has saved, oldest first. -/
def savedPairs (trace : List Event) : List (Sides Frame) :=
  trace.filterMap fun
    | .saved pair => some pair
    | _ => none

/-- The writer has seen the flag and not taken it down yet. -/
def WriterPoint.found : WriterPoint → Bool
  | .copyingLeft | .copyingRight _ | .lowering _ => true
  | _ => false

/-- The pair the writer has found and not saved yet. -/
def State.inHand (state : State) : Option (Sides Frame) :=
  match state.writer with
  | .copyingLeft => some state.syncFrames
  | .copyingRight left => some { state.syncFrames with left }
  | .lowering pair | .unlocking (some pair) | .saving pair => some pair
  | _ => none

/-- `sync_thread` has overwritten a part of the slot. -/
def SyncPoint.storing : SyncPoint → Bool
  | .storingRight _ | .raising _ => true
  | _ => false

structure Relates (state : State) (box : Mailbox (Sides Frame)) : Prop where
  taken : box.taken = state.inHand
  found : state.writer.found → box.waiting = none
  flagged : state.hasNewSyncPair = (box.waiting.isSome || state.writer.found)
  slot : state.sync.storing = false → ∀ pair ∈ box.waiting,
    state.syncFrames = pair

section History

variable (trace : List Event)

theorem puts_handovers : puts (handovers trace) = storedPairs trace := by
  rw [puts, handovers, List.filterMap_filterMap]
  unfold storedPairs
  congr 1
  funext event
  cases event <;> rfl

theorem deliveries_handovers :
    deliveries (handovers trace) = savedPairs trace := by
  rw [deliveries, handovers, List.filterMap_filterMap]
  unfold savedPairs
  congr 1
  funext event
  cases event <;> rfl

end History

section Steps

variable {state next : State} {action : Action} {events : List Event}
  {box : Mailbox (Sides Frame)}

theorem Locked.not_found (locked : Locked state)
    (inside : state.insideSync .sync) : state.writer.found = false := by
  by_contra found
  have writer : state.insideSync .writer := by
    cases here : state.writer <;>
      simp_all [State.insideSync, WriterPoint.found, WriterPoint.inside]
  have same : Thread.sync = .writer := locked.sync.exclusive inside writer
  cases same

theorem Locked.not_storing (locked : Locked state)
    (inside : state.insideSync .writer) : state.sync.storing = false := by
  by_contra storing
  have sync : state.insideSync .sync := by
    cases here : state.sync <;>
      simp_all [State.insideSync, SyncPoint.storing, SyncPoint.insideSync]
  have same : Thread.sync = .writer := locked.sync.exclusive sync inside
  cases same

/-- A writer that does not read the slot does not notice it change. -/
theorem inHand_of_not_found (away : state.writer.found = false)
    (writer : next.writer = state.writer) : next.inHand = state.inHand := by
  simp only [State.inHand, writer]
  cases here : state.writer with
  | copyingLeft | copyingRight | lowering =>
      simp [here, WriterPoint.found] at away
  | unlocking pair => cases pair <;> rfl
  | checking | locking | looking | saving | exited => rfl

/-- A part of the slot is overwritten only while the writer stays away. -/
theorem Relates.store (relates : Relates state box) (locked : Locked state)
    (inside : state.insideSync .sync) {frames : Sides Frame} {sync : SyncPoint}
    (storing : sync.storing = true) :
    Relates { state with syncFrames := frames, sync } box where
  taken := by
    rw [relates.taken]
    symm
    exact inHand_of_not_found (locked.not_found inside) rfl
  found := relates.found
  flagged := relates.flagged
  slot idle := by
    rw [storing] at idle
    cases idle

theorem SyncMove.relates (move : SyncMove state next events)
    (relates : Relates state box) (locked : Locked state)
    (written : state.Written) :
    ∃ after, Mailbox.mailbox.accept box (handovers events) = some after ∧
      Relates next after := by
  cases move with
  | storeLeft here | storeRight here =>
      refine ⟨box, rfl, relates.store locked ?_ rfl⟩
      simp [State.insideSync, here, SyncPoint.insideSync]
  | @raise pair here =>
      have inside : state.insideSync .sync := by
        simp [State.insideSync, here, SyncPoint.insideSync]
      have away := locked.not_found inside
      refine ⟨{ box with waiting := some pair }, rfl, relates.taken, ?_, ?_, ?_⟩
      · intro found
        rw [away] at found
        cases found
      · simp
      · intro _ other waiting
        have left := written .left pair.left (by rw [here]; rfl)
        have right := written .right pair.right (by rw [here]; rfl)
        cases waiting
        exact congrArg₂ Sides.mk left right
  | @take side here =>
      refine ⟨box, rfl, relates.taken, relates.found, relates.flagged, ?_⟩
      intro _
      apply relates.slot
      rw [here]; rfl
  | _ here =>
      refine ⟨box, rfl, relates.taken, relates.found, relates.flagged, ?_⟩
      intro _
      apply relates.slot
      rw [here]; rfl

theorem WriterMove.relates (move : WriterMove state next events)
    (relates : Relates state box) (locked : Locked state) :
    ∃ after, Mailbox.mailbox.accept box (handovers events) = some after ∧
      Relates next after := by
  have taken := relates.taken
  have found := relates.found
  have flagged := relates.flagged
  cases move with
  | find here new =>
      have idle : box.taken = none := by
        rw [taken, State.inHand, here]
      have waits : box.waiting.isSome := by
        simpa [new, here, WriterPoint.found] using flagged.symm
      obtain ⟨pair, waiting⟩ := Option.isSome_iff_exists.mp waits
      have still : state.sync.storing = false := by
        apply locked.not_storing
        simp [State.insideSync, here, WriterPoint.inside]
      have slot := relates.slot still pair waiting
      refine ⟨⟨none, box.waiting⟩, Mailbox.accept_look idle, ?_, ?_, ?_, ?_⟩
      · rw [waiting, State.inHand, slot]
      · exact fun _ => rfl
      · simp [new, WriterPoint.found]
      · intro _ other present
        cases present
  | miss here old =>
      have idle : box.taken = none := by
        rw [taken, State.inHand, here]
      have empty : box.waiting = none := by
        simpa [old, here, WriterPoint.found] using flagged.symm
      refine ⟨⟨none, box.waiting⟩, Mailbox.accept_look idle, ?_, ?_, ?_, ?_⟩
      · rw [empty, State.inHand]
      · exact fun _ => rfl
      · simp [old, WriterPoint.found]
      · intro _ other present
        cases present
  | @lower pair here =>
      have empty := found (by rw [here]; rfl)
      refine ⟨box, rfl, ?_, fun _ => empty, ?_, relates.slot⟩
      · rw [taken, State.inHand, here, State.inHand]
      · simp [empty, WriterPoint.found]
  | @save pair here =>
      have held : box.taken = some pair := by
        rw [taken, State.inHand, here]
      refine ⟨⟨box.waiting, none⟩, Mailbox.accept_deliver held, ?_, ?_, ?_,
        relates.slot⟩
      · rw [State.inHand]
      · intro saving
        cases saving
      · rw [flagged, here]
        rfl
  | copyLeft here | copyRight here =>
      have empty := found (by rw [here]; rfl)
      refine ⟨box, rfl, ?_, fun _ => empty, ?_, relates.slot⟩
      · rw [taken, State.inHand, here, State.inHand]
      · rw [flagged, here]
        rfl
  | begin here | leave here | lock here | unlockNew here | unlockOld here =>
      refine ⟨box, rfl, ?_, ?_, ?_, relates.slot⟩
      · rw [taken, State.inHand, here, State.inHand]
      · intro away
        cases away
      · rw [flagged, here]
        rfl

theorem Move.relates (move : Move state action next events)
    (relates : Relates state box) (locked : Locked state)
    (written : state.Written) :
    ∃ after, Mailbox.mailbox.accept box (handovers events) = some after ∧
      Relates next after := by
  cases move with
  | sync moved => exact moved.relates relates locked written
  | writer moved => exact moved.relates relates locked
  | camera moved | main moved =>
      refine ⟨box, rfl, ?_⟩
      cases moved <;>
        exact ⟨relates.taken, relates.found, relates.flagged, relates.slot⟩

end Steps

section Runs

variable {trace : List Event} {last : State}

theorem initial_relates : Relates initial .empty where
  taken := rfl
  found := fun _ => rfl
  flagged := rfl
  slot := fun _ _ present => by cases present

/-- The two threads use the frames and the flag as a mailbox. -/
theorem run_relates (steps : level1.Run level1.start trace last) :
    ∃ final, Mailbox.mailbox.accept .empty (handovers trace) = some final ∧
      Relates last final := by
  have invariant : (∃ final, Mailbox.mailbox.accept .empty (handovers trace) =
      some final ∧ Relates last final) ∧ Locked last ∧ last.Written := by
    refine steps.history (fun past state => (∃ final,
      Mailbox.mailbox.accept .empty (handovers past) = some final ∧
        Relates state final) ∧ Locked state ∧ state.Written)
      ⟨⟨.empty, rfl, initial_relates⟩, initial_locked, initial_written⟩ ?_
    rintro past state action next events
      ⟨⟨middle, accepted, relates⟩, locked, written⟩ _ taken
    have move := step_move taken
    refine ⟨?_, move.locked locked, move.written written⟩
    obtain ⟨after, moved, related⟩ := move.relates relates locked written
    refine ⟨after, ?_, related⟩
    rw [handovers, List.filterMap_append, Acceptor.accept_append]
    rw [handovers] at accepted moved
    rw [accepted, Option.bind_some, moved]
  exact invariant.1

/-- What the writer saves are pairs that were stored, in their order and each
once; a stored pair is missing when a newer one came before the next look, when
there was no further look, or while the writer still has it in hand. -/
theorem saved_stored (steps : level1.Run level1.start trace last) :
    List.Sublist (savedPairs trace) (storedPairs trace) ∧
      ∀ {earlier pair later},
        handovers trace = earlier ++ .put pair :: later →
          Mailbox.Replaced later ∨ .look ∉ later ∨
            Mailbox.Delivered pair later ∨ last.inHand = some pair := by
  obtain ⟨final, accepted, relates⟩ := run_relates steps
  refine ⟨?_, ?_⟩
  · have sublist := Mailbox.deliveries_sublist accepted
    rw [puts_handovers, deliveries_handovers, List.append_assoc] at sublist
    exact (List.sublist_append_left ..).trans sublist
  · intro earlier pair later split
    rw [split] at accepted
    rw [← relates.taken]
    exact Mailbox.fate accepted

/-- Two pairs are taken and stored before the writer looks. -/
private def handedOver : State × List Event :=
  (level1.execute (fun _ _ => True) initial
    (shot .left ⟨0, 0⟩ ++ shot .right ⟨0, 1000000⟩ ++ pairing ++
      shot .left ⟨0, 40000000⟩ ++ shot .right ⟨0, 41000000⟩ ++ pairing ++
      List.replicate 8 .writer)).get (by decide +kernel)

/-- The second replaces the first, which is lost. -/
theorem saved_stored_replaced :
    (savedPairs handedOver.2).map (·.left.frameId) = [2] ∧
      (storedPairs handedOver.2).map (·.left.frameId) = [1, 2] ∧
      List.Sublist (savedPairs handedOver.2) (storedPairs handedOver.2) ∧
      ∃ first later, handovers handedOver.2 = .put first :: later ∧
        Mailbox.Replaced later := by
  have steps : level1.Run level1.start handedOver.2 handedOver.1 :=
    Machine.execute_get_runWithin _
  have saved := saved_stored steps
  let first : Sides Frame := ⟨⟨1, ⟨0, 0⟩⟩, ⟨1, ⟨0, 1000000⟩⟩⟩
  let later := (handovers handedOver.2).tail
  have split : handovers handedOver.2 = [] ++ .put first :: later := by
    decide +kernel
  refine ⟨by decide +kernel, by decide +kernel, saved.1, first, later, split, ?_⟩
  rcases saved.2 split with replaced | unseen | delivered | held
  · exact replaced
  · exact absurd unseen (by decide +kernel)
  · obtain ⟨between, busy, after, same, _⟩ := delivered
    have member : .deliver first ∈ later := by
      rw [same]
      simp
    exact absurd member (by decide +kernel)
  · exact absurd held (by decide +kernel)

end Runs

end SysOp.Lab6.Level1
