import SysOp.Lab2.Counting

/-!
# The loop comes to its end

A step of the program brings the process on by at least one position.  What it
raises can be delivered once, and the handler runs once for each delivery.
-/

namespace SysOp.Lab2

open SysOp.Foundation

def Process.work (process : Process) : Nat :=
  3 * (128 - process.point.position) +
    2 * (process.signals.pending .SIGUSR1).toNat +
    process.signals.running.length

section Moves

variable {keeps : Bool} {setup : Setup} {process next : Process}
  {events : List Event} {disposition : Disposition Handler} {masked : Bool}

theorem Point.position_lt {point : Point} (going : point.ended = false)
    (due : point.Due) : point.position < 128 := by
  cases point <;> simp only [Due, position] at due ⊢ <;>
    first | omega | cases going

theorem running_handlerStep {frame : Frame Signal Handler}
    {rest : List (Frame Signal Handler)}
    (inside : process.signals.running = frame :: rest) :
    (process.handlerStep frame).1.signals.running = rest ∧
      (process.handlerStep frame).1.signals.pending =
        process.signals.pending := by
  unfold Process.handlerStep
  cases frame.handler <;> dsimp only <;>
    rw [Signals.sigreturn_eq inside] <;> exact ⟨rfl, rfl⟩

theorem MainMove.work (move : MainMove keeps setup process next events)
    (inLoop : InLoop disposition masked process) : next.work < process.work := by
  have begun := inLoop.begun
  have due := inLoop.due
  have bounded : (next.signals.pending .SIGUSR1).toNat ≤ 1 := Bool.toNat_le _
  cases move with
  | exec here | install here | testMode here | pause here | setUp here
  | refuse here =>
      rw [here] at begun
      exact absurd begun (by decide)
  | test here | tested here | count here | send here | check here | pass here
  | wake here | unblock here | finish here =>
      rw [here] at due
      simp only [Process.work, Process.goTo, here, Point.position, Point.Due,
        sigUnblock, Signals.unblock] at due ⊢
      omega
  | raise here =>
      rw [here] at due
      simp only [Process.work, here, Point.position, Point.Due,
        Signals.running_generate] at due bounded ⊢
      omega

/-- A delivery leaves less to do wherever the process goes on. -/
theorem Process.work_deliver {signals : Sigs} {delivery : Delivery Handler}
    {point : Point}
    (delivered : process.signals.deliver .SIGUSR1 = some (signals, delivery))
    (onward : process.point.position ≤ point.position) :
    { process with signals, point }.work < process.work := by
  obtain ⟨deliverable, _⟩ := Signals.deliver_eq_some_iff.mp delivered
  obtain ⟨cleared, fewer⟩ := Signals.pending_deliver delivered
  simp only [Process.work]
  rw [cleared, Function.update_self, deliverable.1, Bool.toNat_true,
    Bool.toNat_false]
  omega

theorem Move.work (move : Move keeps setup process next events)
    (inLoop : InLoop disposition masked process) : next.work < process.work := by
  have inside := Point.position_lt inLoop.going inLoop.due
  cases move with
  | main _ _ move => exact move.work inLoop
  | handle _ running =>
      obtain ⟨_, same⟩ := inLoop.handle running
      obtain ⟨fewer, pending⟩ := running_handlerStep running
      rw [Process.work, Process.work, same, fewer, pending, running,
        List.length_cons]
      omega
  | terminate _ delivered =>
      obtain ⟨deliverable, _⟩ := Signals.deliver_eq_some_iff.mp delivered
      obtain ⟨rfl, _⟩ := inLoop.deliverable deliverable
      exact Process.work_deliver delivered inside.le
  | deliver _ delivered =>
      obtain ⟨deliverable, _⟩ := Signals.deliver_eq_some_iff.mp delivered
      obtain ⟨rfl, _⟩ := inLoop.deliverable deliverable
      exact Process.work_deliver delivered le_rfl

/-- A process that does not wait in `pause` outside of handlers goes on, or is
delivered a signal first. -/
theorem Process.able (going : process.point.ended = false)
    (awake : process.point = .pausing →
      process.Ready → process.signals.running ≠ []) :
    (process.step keeps setup).isSome ∨
      ∃ signal, (process.deliver signal).isSome := by
  by_cases ready : process.Ready
  · left
    rw [Process.step, if_pos ⟨going, ready⟩]
    split
    next => rfl
    next outside =>
      unfold Process.mainStep
      dsimp only
      split
      case h_5 here => exact absurd outside (awake here ready)
      case h_6 => split <;> rfl
      case h_9 => split <;> [rfl; (split <;> rfl)]
      case h_14 here | h_15 here =>
        rw [here] at going
        cases going
      all_goals rfl
  · right
    simp only [Process.Ready, not_forall, not_not] at ready
    obtain ⟨signal, deliverable⟩ := ready
    refine ⟨signal, ?_⟩
    rw [Process.deliver, if_neg (Bool.eq_false_iff.mp going), Signals.deliver,
      if_pos deliverable]
    cases process.signals.disposition signal <;> rfl

end Moves

end SysOp.Lab2
