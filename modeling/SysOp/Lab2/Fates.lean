import SysOp.Lab2.Waiting

/-!
# What becomes of the child

A child that the message finds before its handler is installed is terminated.
One that it finds at the test of the mode, or in `pause`, comes to the loop.  One
that it finds in between waits for ever.
-/

namespace SysOp.Lab2

open SysOp.Foundation

/-- The child has exited before the loop. -/
def GaveUp (past : List Event) (process : Process) : Prop :=
  process.point = .returned EXIT_FAILURE ∧ past = [.exited EXIT_FAILURE]

def Doomed (mode : UInt8) (inherited : Inherited) (past : List Event)
    (process : Process) : Prop :=
  Waits mode inherited .pending past process ∧
      process.point.installed = false ∨
    process.point = .killed .SIGUSR2 ∧ past = [.killed .SIGUSR2]

/-- The message comes while the child can still heed it. -/
structure Told (mode : UInt8) (inherited : Inherited) (message : Message)
    (past : List Event) (process : Process) : Prop where
  waits : Waits mode inherited message past process
  sent : message ≠ .unsent
  here : process.point = .testingMode ∨
    process.point = .pausing ∧ message ≠ .received

/-- The child knows the mode. -/
def Knows (configured : Bool) (mode : UInt8) (inherited : Inherited)
    (past : List Event) (process : Process) : Prop :=
  Begins mode inherited past process ∧ past = [] ∧
      process.signals.pending .SIGUSR1 = false ∨
    if configured then
      Exact (inherited.settled mode) (inherited.masked mode) past process
    else GaveUp past process

def Heard (configured : Bool) (mode : UInt8) (inherited : Inherited)
    (past : List Event) (process : Process) : Prop :=
  (∃ message, Told mode inherited message past process) ∨
    Knows configured mode inherited past process

/-- The message comes between the test of the mode and `pause`. -/
structure Missed (mode : UInt8) (inherited : Inherited) (message : Message)
    (past : List Event) (process : Process) : Prop where
  waits : Waits mode inherited message past process
  sent : message ≠ .unsent
  here : process.point = .callingPause ∨
    process.point = .pausing ∧ message = .received

section Moves

variable {keeps : Bool} {setup : Setup} {mode : UInt8} {inherited : Inherited}
  {message : Message} {process next : Process} {events past : List Event}
  {configured : Bool}

/-- `execl` fails only before everything else. -/
theorem ChildMove.move_of_ne (move : ChildMove keeps setup process next events)
    (begun : process.point ≠ .executing ∨ ¬ process.Ready) :
    Move keeps setup process next events := by
  cases move with
  | move move => exact move
  | fail here ready =>
      rcases begun with elsewhere | busy
      · exact absurd here elsewhere
      · exact absurd ready busy

theorem ChildMove.alive (move : ChildMove keeps setup process next events) :
    process.point.ended = false := by
  cases move with
  | move move => exact move.alive
  | fail here =>
      rw [here]
      rfl

theorem Waits.not_ready (waits : Waits mode inherited .pending past process) :
    ¬ process.Ready :=
  fun ready => ready .SIGUSR2 waits.due

theorem Doomed.move (doomed : Doomed mode inherited past process)
    (move : ChildMove keeps setup process next events) :
    next.point = .killed .SIGUSR2 ∧ past ++ events = [.killed .SIGUSR2] := by
  rcases doomed with ⟨waits, early⟩ | ⟨ended, _⟩
  · rcases waits.pending_move (move.move_of_ne (.inr waits.not_ready)) with
      ⟨_, rfl, here⟩ | ⟨late, _⟩
    · rw [waits.silent]
      exact ⟨here, rfl⟩
    · rw [early] at late
      cases late
  · have alive := move.alive
    rw [ended] at alive
    cases alive

theorem Told.move (told : Told mode inherited message past process)
    (isMode : IsMode mode) (move : ChildMove keeps setup process next events) :
    events = [] ∧
      (message = .pending ∧ Told mode inherited .handling past next ∨
        message = .handling ∧ Told mode inherited .received past next ∨
        message = .received ∧ Begins mode inherited past next ∧
          next.signals.pending .SIGUSR1 = false) := by
  obtain ⟨waits, sent, here⟩ := told
  have begun : process.point ≠ .executing := by
    rcases here with here | ⟨here, _⟩ <;> rw [here] <;> decide
  have move := move.move_of_ne (.inl begun)
  cases message with
  | unsent => exact absurd rfl sent
  | pending =>
      rcases waits.pending_move move with ⟨early, _⟩ | ⟨_, rfl, same, handling⟩
      · rcases here with here | ⟨here, _⟩ <;> rw [here] at early <;> cases early
      · refine ⟨rfl, .inl ⟨rfl, handling, by decide, ?_⟩⟩
        rw [same]
        exact here.imp_right fun here => ⟨here.1, by decide⟩
  | handling =>
      obtain ⟨rfl, received, point⟩ := waits.handling_move move
      refine ⟨rfl, .inr (.inl ⟨rfl, received, by decide, .inl ?_⟩)⟩
      rcases here with here | ⟨here, _⟩ <;> rw [point, here] <;> rfl
  | received =>
      obtain ⟨rfl, ⟨_, begins, quiet⟩ | ⟨elsewhere, _⟩⟩ :=
        waits.received_move isMode move
      · exact ⟨rfl, .inr (.inr ⟨rfl, begins, quiet⟩)⟩
      · rcases here with here | ⟨_, other⟩
        · cases here.symm.trans elsewhere
        · exact absurd rfl other

theorem Missed.move (missed : Missed mode inherited message past process)
    (isMode : IsMode mode) (move : ChildMove keeps setup process next events) :
    events = [] ∧
      (message = .pending ∧ Missed mode inherited .handling past next ∨
        message = .handling ∧ Missed mode inherited .received past next ∨
        message = .received ∧ next.point = .pausing ∧
          Missed mode inherited .received past next) := by
  obtain ⟨waits, sent, here⟩ := missed
  have begun : process.point ≠ .executing := by
    rcases here with here | ⟨here, _⟩ <;> rw [here] <;> decide
  have move := move.move_of_ne (.inl begun)
  have calling (unreceived : message ≠ .received) :
      process.point = .callingPause :=
    here.resolve_right fun here => unreceived here.2
  cases message with
  | unsent => exact absurd rfl sent
  | pending =>
      rcases waits.pending_move move with ⟨early, _⟩ | ⟨_, rfl, same, handling⟩
      · rw [calling (by decide)] at early
        cases early
      · exact ⟨rfl, .inl ⟨rfl, handling, by decide,
          .inl (same.trans (calling (by decide)))⟩⟩
  | handling =>
      obtain ⟨rfl, received, point⟩ := waits.handling_move move
      refine ⟨rfl, .inr (.inl ⟨rfl, received, by decide, .inl ?_⟩)⟩
      rw [point, calling (by decide)]
      rfl
  | received =>
      obtain ⟨rfl, ⟨elsewhere, _⟩ | ⟨_, point, received⟩⟩ :=
        waits.received_move isMode move
      · rcases here with here | ⟨here, _⟩ <;> cases here.symm.trans elsewhere
      · exact ⟨rfl, .inr (.inr ⟨rfl, point, received, by decide,
          .inr ⟨point, rfl⟩⟩)⟩

theorem Knows.begun (knows : Knows configured mode inherited past process)
    (going : process.point.ended = false) : 5 ≤ process.point.position := by
  rcases knows with ⟨begins, _⟩ | ends
  · rw [begins.fresh.here]
    exact Nat.le_refl 5
  · cases configured with
    | true =>
        obtain ⟨counts, _⟩ := (exact_iff going).mp ends
        exact Nat.le_of_succ_le ((counts_iff going).mp counts).1.begun
    | false =>
        rw [ends.1] at going
        cases going

/-- A child that knows the mode does as it is set up, and has less to do. -/
theorem Knows.move (knows : Knows configured mode inherited past process)
    (isMode : IsMode mode) (decides : setup.Decides mode configured)
    (move : ChildMove keeps setup process next events) :
    Knows configured mode inherited (past ++ events) next ∧
      next.work < process.work := by
  have alive := move.alive
  have begun := knows.begun alive
  have move := move.move_of_ne (.inl (by
    intro here
    rw [here] at begun
    exact absurd begun (by decide)))
  rcases knows with ⟨begins, rfl, quiet⟩ | ends
  · cases configured with
    | true =>
        have exact := begins.exact isMode decides rfl quiet move
        obtain ⟨after, configured, _, rfl⟩ :=
          begins.fresh.main isMode decides begins.mode (begins.main quiet move)
        exact ⟨.inr exact, configured.work begins.fresh.here⟩
    | false =>
        obtain ⟨rfl, rfl⟩ := begins.refused decides quiet move
        refine ⟨.inr ⟨rfl, rfl⟩, ?_⟩
        rw [Process.work, Process.work, begins.fresh.here]
        simp only [Process.goTo, Point.position]
        omega
  · cases configured with
    | true =>
        have kept := Move.exact move (inherited.settled_ne_usr2 mode) ends
        obtain ⟨counts, _⟩ := (exact_iff alive).mp ends
        exact ⟨.inr kept, move.work ((counts_iff alive).mp counts).1⟩
    | false =>
        rw [ends.1] at alive
        cases alive

theorem Heard.move (heard : Heard configured mode inherited past process)
    (isMode : IsMode mode) (decides : setup.Decides mode configured)
    (move : ChildMove keeps setup process next events) :
    Heard configured mode inherited (past ++ events) next := by
  rcases heard with ⟨message, told⟩ | knows
  · have silent := told.waits.silent
    obtain ⟨rfl, ⟨_, told⟩ | ⟨_, told⟩ | ⟨_, begins, quiet⟩⟩ :=
      told.move isMode move
    · exact .inl ⟨_, by rwa [List.append_nil]⟩
    · exact .inl ⟨_, by rwa [List.append_nil]⟩
    · rw [List.append_nil]
      exact .inr (.inl ⟨begins, silent, quiet⟩)
  · exact .inr (knows.move isMode decides move).1

end Moves

end SysOp.Lab2
