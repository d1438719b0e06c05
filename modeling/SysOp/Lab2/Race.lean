import SysOp.Foundation.Inevitable
import SysOp.Lab2.Fates

/-!
# The race between the message and the child

What the family comes to once the message is sent.  The child cannot miss
`SIGUSR2`, but it can miss that it came.
-/

namespace SysOp.Lab2

open SysOp.Foundation

section Race

variable {keeps : Bool} {setup : Setup} {mode : UInt8} {inherited : Inherited}
  {message : Message} {process next : Process} {events past : List Event}
  {configured : Bool} {goal : Family → Prop}

variable (keeps setup mode inherited) in
/-- Whatever the family does it comes to the goal. -/
abbrev Comes (goal : Family → Prop) : Family → Prop :=
  (family keeps setup mode inherited).Inevitable (fun _ _ => True) goal

theorem waiting_move {before after : Family}
    (move : FamilyMove keeps setup mode inherited before after events)
    (here : before.parent = .waiting) (child : before.child = some process) :
    process.point.ended ∧ after = { before with parent := .returned 0 } ∨
      ∃ next, ChildMove keeps setup process next events ∧
        after = { before with child := some next } := by
  cases move with
  | wait _ same ended =>
      cases child.symm.trans same
      exact .inl ⟨ended, rfl⟩
  | child same move =>
      cases child.symm.trans same
      exact .inr ⟨_, move, rfl⟩
  | fork other | forkFails other | wake other | send other | sendFails other
  | kill other => cases here.symm.trans other

/-- While the parent waits only the child moves. -/
theorem comes_of_child (going : process.point.ended = false)
    (awake : process.point = .pausing →
      process.Ready → process.signals.running ≠ [])
    (after : ∀ {next events}, ChildMove keeps setup process next events →
      Comes keeps setup mode inherited goal ⟨.waiting, some next⟩) :
    Comes keeps setup mode inherited goal ⟨.waiting, some process⟩ := by
  apply Machine.Inevitable.onward
  · rcases Process.able going awake with onward | ⟨signal, delivered⟩
    · refine ⟨.child, trivial, ?_⟩
      change (Option.map _ (process.step keeps setup)).isSome
      rw [Option.isSome_map]
      exact onward
    · refine ⟨.deliver signal, trivial, ?_⟩
      change (Option.map _ (process.deliver signal)).isSome
      rw [Option.isSome_map]
      exact delivered
  · intro act family events _ taken
    rcases waiting_move (Family.step_move taken) rfl rfl with
      ⟨ended, _⟩ | ⟨next, move, rfl⟩
    · rw [going] at ended
      cases ended
    · exact after move

/-- Once the child has ended the parent returns. -/
theorem comes_of_ended (ended : process.point.ended)
    (settled : goal ⟨.returned 0, some process⟩) :
    Comes keeps setup mode inherited goal ⟨.waiting, some process⟩ := by
  apply Machine.Inevitable.onward
  · refine ⟨.parent, trivial, ?_⟩
    change (Option.map _ (if process.point.ended then _ else _)).isSome
    rw [if_pos ended]
    rfl
  · intro act family events _ taken
    rcases waiting_move (Family.step_move taken) rfl rfl with
      ⟨_, rfl⟩ | ⟨next, move, rfl⟩
    · exact .reached settled
    · have alive := move.alive
      rw [ended] at alive
      cases alive

/-- Where the child ends, as it is set up. -/
def lastPoint (configured : Bool) (disposition : Disposition Handler) : Point :=
  if configured then
    if disposition = .default then .killed .SIGUSR1 else .returned 0
  else .returned EXIT_FAILURE

theorem Knows.point_eq (knows : Knows configured mode inherited past process)
    (ended : process.point.ended) :
    process.point = lastPoint configured (inherited.settled mode) := by
  rcases knows with ⟨begins, _⟩ | ends
  · rw [begins.fresh.here] at ended
    cases ended
  · cases configured with
    | true =>
        have outcome := ends.outcome ended
        rw [lastPoint, if_pos rfl]
        rw [Outcome] at outcome
        split at outcome
        next default => rw [if_pos default]; exact outcome.1
        next spared => rw [if_neg spared]; exact outcome.1
    | false => exact ends.1

/-- The child has ended there, and the parent has returned. -/
def Reaped (point : Point) (family : Family) : Prop :=
  family.parent = .returned 0 ∧
    ∃ process, family.child = some process ∧ process.point = point

theorem Knows.comes (isMode : IsMode mode)
    (decides : setup.Decides mode configured)
    (knows : Knows configured mode inherited past process) :
    Comes keeps setup mode inherited
      (Reaped (lastPoint configured (inherited.settled mode)))
      ⟨.waiting, some process⟩ := by
  induction left : process.work using Nat.strongRecOn
    generalizing process past with
  | ind left inductionHypothesis =>
      subst left
      cases ended : process.point.ended with
      | true =>
          exact comes_of_ended ended ⟨rfl, _, rfl, knows.point_eq ended⟩
      | false =>
          apply comes_of_child ended
          · intro here
            have begun := knows.begun ended
            rw [here] at begun
            exact absurd begun (by decide)
          · intro next events move
            obtain ⟨kept, lower⟩ := knows.move isMode decides move
            exact inductionHypothesis _ lower kept rfl

theorem Told.comes_received (isMode : IsMode mode)
    (decides : setup.Decides mode configured)
    (told : Told mode inherited .received past process) :
    Comes keeps setup mode inherited
      (Reaped (lastPoint configured (inherited.settled mode)))
      ⟨.waiting, some process⟩ := by
  apply comes_of_child told.waits.going
  · intro here
    rcases told.here with elsewhere | ⟨_, unreceived⟩
    · cases here.symm.trans elsewhere
    · exact absurd rfl unreceived
  · intro next events move
    obtain ⟨_, ⟨other, _⟩ | ⟨other, _⟩ | ⟨_, begins, quiet⟩⟩ :=
      told.move isMode move
    · cases other
    · cases other
    · rw [told.waits.silent] at begins
      exact Knows.comes isMode decides (.inl ⟨begins, rfl, quiet⟩)

theorem Waits.inside (waits : Waits mode inherited .handling past process) :
    process.signals.running ≠ [] := by
  obtain ⟨mask, running⟩ := waits.running
  rw [running, if_pos rfl]
  exact List.cons_ne_nil _ _

theorem Told.comes_handling (isMode : IsMode mode)
    (decides : setup.Decides mode configured)
    (told : Told mode inherited .handling past process) :
    Comes keeps setup mode inherited
      (Reaped (lastPoint configured (inherited.settled mode)))
      ⟨.waiting, some process⟩ := by
  apply comes_of_child told.waits.going
  · exact fun _ _ => told.waits.inside
  · intro next events move
    obtain ⟨_, ⟨other, _⟩ | ⟨_, told⟩ | ⟨other, _⟩⟩ := told.move isMode move
    · cases other
    · exact told.comes_received isMode decides
    · cases other

theorem Told.comes (isMode : IsMode mode)
    (decides : setup.Decides mode configured)
    (told : Told mode inherited .pending past process) :
    Comes keeps setup mode inherited
      (Reaped (lastPoint configured (inherited.settled mode)))
      ⟨.waiting, some process⟩ := by
  apply comes_of_child told.waits.going
  · exact fun _ ready => absurd ready told.waits.not_ready
  · intro next events move
    obtain ⟨_, ⟨_, told⟩ | ⟨other, _⟩ | ⟨other, _⟩⟩ := told.move isMode move
    · exact told.comes_handling isMode decides
    · cases other
    · cases other

theorem Doomed.comes (doomed : Doomed mode inherited past process) :
    Comes keeps setup mode inherited (Reaped (.killed .SIGUSR2))
      ⟨.waiting, some process⟩ := by
  have killed {process : Process} (here : process.point = .killed .SIGUSR2) :
      Comes keeps setup mode inherited (Reaped (.killed .SIGUSR2))
        ⟨.waiting, some process⟩ :=
    comes_of_ended (by rw [here]; rfl) ⟨rfl, _, rfl, here⟩
  rcases id doomed with ⟨waits, _⟩ | ⟨here, _⟩
  · apply comes_of_child waits.going
    · exact fun _ ready => absurd ready waits.not_ready
    · exact fun move => killed (doomed.move move).1
  · exact killed here

variable (keeps setup mode inherited) in
/-- The child sleeps in `pause` though it has received the mode, and the parent
waits for it. -/
def Stuck (family : Family) : Prop :=
  family.parent = .waiting ∧
    (∃ process, family.child = some process ∧ process.point = .pausing ∧
      process.receivedMode = mode.toNat) ∧
    ¬ (Lab2.family keeps setup mode inherited).Able (fun _ _ => True) family

theorem Missed.stuck (isMode : IsMode mode)
    (missed : Missed mode inherited .received past process)
    (here : process.point = .pausing) :
    Stuck keeps setup mode inherited ⟨.waiting, some process⟩ := by
  refine ⟨rfl, ⟨process, rfl, here, missed.waits.received⟩, ?_⟩
  rintro ⟨act, _, able⟩
  obtain ⟨⟨after, events⟩, taken⟩ := Option.isSome_iff_exists.mp able
  rcases waiting_move (Family.step_move taken) rfl rfl with
    ⟨ended, _⟩ | ⟨next, move, _⟩
  · rw [missed.waits.going] at ended
    cases ended
  · have move := move.move_of_ne (.inl (by rw [here]; decide))
    obtain ⟨_, ⟨elsewhere, _⟩ | ⟨elsewhere, _⟩⟩ :=
      missed.waits.received_move isMode move
    · cases here.symm.trans elsewhere
    · cases here.symm.trans elsewhere

theorem Missed.comes_received (isMode : IsMode mode)
    (missed : Missed mode inherited .received past process) :
    Comes keeps setup mode inherited (Stuck keeps setup mode inherited)
      ⟨.waiting, some process⟩ := by
  by_cases pausing : process.point = .pausing
  · exact .reached (missed.stuck isMode pausing)
  · apply comes_of_child missed.waits.going
    · exact fun here => absurd here pausing
    · intro next events move
      obtain ⟨_, ⟨other, _⟩ | ⟨other, _⟩ | ⟨_, here, missed⟩⟩ :=
        missed.move isMode move
      · cases other
      · cases other
      · exact .reached (missed.stuck isMode here)

theorem Missed.comes_handling (isMode : IsMode mode)
    (missed : Missed mode inherited .handling past process) :
    Comes keeps setup mode inherited (Stuck keeps setup mode inherited)
      ⟨.waiting, some process⟩ := by
  apply comes_of_child missed.waits.going
  · exact fun _ _ => missed.waits.inside
  · intro next events move
    obtain ⟨_, ⟨other, _⟩ | ⟨_, missed⟩ | ⟨other, _⟩⟩ := missed.move isMode move
    · cases other
    · exact missed.comes_received isMode
    · cases other

theorem Missed.comes (isMode : IsMode mode)
    (missed : Missed mode inherited .pending past process) :
    Comes keeps setup mode inherited (Stuck keeps setup mode inherited)
      ⟨.waiting, some process⟩ := by
  apply comes_of_child missed.waits.going
  · exact fun _ ready => absurd ready missed.waits.not_ready
  · intro next events move
    obtain ⟨_, ⟨_, missed⟩ | ⟨other, _⟩ | ⟨other, _⟩⟩ := missed.move isMode move
    · exact missed.comes_handling isMode
    · cases other
    · cases other

end Race

end SysOp.Lab2
