import SysOp.Lab2.Runs

/-!
# `zad2`

The parent sleeps for a second so that the child may come to `pause` first.
Where it has not, the second decides nothing.
-/

namespace SysOp.Lab2.Zad2

open SysOp.Foundation

def modeSetup : Setup :=
  Lab2.modeSetup fun _ => bytes "improper mode passed into mode_setup\n"

def zad2 (keeps : Bool) (mode : UInt8) (inherited : Inherited) :
    Machine Family Act Event :=
  family keeps modeSetup mode inherited

section Runs

variable {keeps : Bool} {mode : UInt8} {inherited : Inherited}
  {before after : Family} {past trace events : List Event}

/-- Where the child is when `sigqueue` sends it the mode decides alone what comes
of both.  Between the test of the mode and `pause` it is too late and too early:
the child sleeps for ever with the mode received, and its parent waits for it. -/
theorem sigqueue_outcome {argv : List Bytes}
    (parsed : parseInput argv = .ok mode)
    (steps : (zad2 keeps mode inherited).Run Family.start past before)
    (here : before.parent = .sending)
    (taken : (zad2 keeps mode inherited).step before .parent =
      some (after, events)) :
    ∃ child, before.child = some child ∧
      match child.point with
      | .executing | .installing =>
          (zad2 keeps mode inherited).Inevitable (fun _ _ => True)
            (Reaped (.killed .SIGUSR2)) after
      | .testingMode | .pausing =>
          (zad2 keeps mode inherited).Inevitable (fun _ _ => True)
            (Reaped (if inherited.settled mode = .default then .killed .SIGUSR1
              else .returned 0)) after
      | .callingPause =>
          (zad2 keeps mode inherited).Inevitable (fun _ _ => True)
            (Stuck keeps modeSetup mode inherited) after
      | point =>
          point = .returned EXIT_FAILURE ∧
            (zad2 keeps mode inherited).Inevitable (fun _ _ => True)
              (Reaped point) after := by
  have isMode := isMode_of_parseInput parsed
  exact sigqueue_comes isMode (modeSetup_decides isMode) steps here taken

/-- When the parent returns, `execl` has failed, the message has terminated the
child before it printed anything, or the child has come out of the loop as the
mode has it.  Where the parent fails, it leaves no child that goes on. -/
theorem family_outcome {argv : List Bytes} (parsed : parseInput argv = .ok mode)
    (steps : (zad2 keeps mode inherited).Run Family.start trace after)
    {code : Nat} (here : after.parent = .returned code) :
    (code = 0 ∧ ∃ child, after.child = some child ∧
        (GaveUp trace child ∨
          (child.point = .killed .SIGUSR2 ∧ trace = [.killed .SIGUSR2]) ∨
          Outcome (inherited.settled mode) (inherited.masked mode) trace
            child)) ∨
      code = EXIT_FAILURE ∧ countedIn trace = [] ∧
        (zad2 keeps mode inherited).Inevitable (fun _ _ => True) Family.Ended
          after := by
  have isMode := isMode_of_parseInput parsed
  rcases run_verdict isMode (modeSetup_decides isMode) steps here with
    ⟨done, child, same, verdict⟩ | failed
  · refine .inl ⟨done, child, same, ?_⟩
    exact verdict.imp_right fun verdict => verdict.imp_right And.right
  · exact .inr failed

/-- The child has tested the mode and is about to call `pause`. -/
private def late : Family × List Event :=
  ((zad2 false modeHandle ⟨false, false⟩).execute (fun _ _ => True)
    Family.start [.parent, .parent, .child, .child, .child]).get
      (by decide +kernel)

theorem sigqueue_outcome_late :
    ∃ after,
      (zad2 false modeHandle ⟨false, false⟩).step late.1 .parent =
          some (after, []) ∧
        (zad2 false modeHandle ⟨false, false⟩).Inevitable (fun _ _ => True)
          (Stuck false modeSetup modeHandle ⟨false, false⟩) after := by
  have parsed : parseInput [bytes "main", bytes "handle"] = .ok modeHandle := by
    decide +kernel
  have steps : (zad2 false modeHandle ⟨false, false⟩).Run Family.start late.2
      late.1 := Machine.execute_get_runWithin _
  obtain ⟨child, same, outcome⟩ :=
    sigqueue_outcome parsed steps (by decide +kernel) rfl
  have point : late.1.child.map (·.point) = some .callingPause := by
    decide +kernel
  rw [same, Option.map_some, Option.some.injEq] at point
  rw [point] at outcome
  exact ⟨_, rfl, outcome⟩

/-- The child is in `pause` when the message comes, and counts to the end. -/
private def heeded : Family × List Event :=
  ((zad2 false modeIgnore ⟨false, false⟩).execute (fun _ _ => True)
    Family.start
    ([.parent, .parent, .child, .child, .child, .child, .parent,
      .deliver .SIGUSR2] ++ List.replicate 87 .child ++ [.parent])).get
      (by decide +kernel)

theorem family_outcome_heeded :
    ∃ child, heeded.1.child = some child ∧ child.point = .returned 0 ∧
      countedIn heeded.2 = List.range' 1 20 := by
  have parsed : parseInput [bytes "main", bytes "ignore"] = .ok modeIgnore := by
    decide +kernel
  have steps : (zad2 false modeIgnore ⟨false, false⟩).Run Family.start heeded.2
      heeded.1 := Machine.execute_get_runWithin _
  have counted : countedIn heeded.2 ≠ [] := by decide +kernel
  have here : heeded.1.parent = .returned 0 := by decide +kernel
  rcases family_outcome parsed steps here with
    ⟨_, child, same, ⟨_, few⟩ | ⟨_, few⟩ | outcome⟩ | ⟨failed, _⟩
  · rw [few] at counted
    exact absurd rfl counted
  · rw [few] at counted
    exact absurd rfl counted
  · exact ⟨child, same, outcome.1, outcome.2.1⟩
  · cases failed

end Runs

end SysOp.Lab2.Zad2
