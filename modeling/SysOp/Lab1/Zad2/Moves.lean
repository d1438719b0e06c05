import SysOp.Lab1.Zad2.System

/-!
# What a step of `zad2` can be

The inversion of `step`.
-/

namespace SysOp.Lab1.Zad2

inductive Move (N : Nat) (succeeds : Path → Bool) (state : State)
    (path : Path) : State → List Event → Prop where
  | fork {i : Nat} (here : state.point path = .spawning i) (more : i < N) :
      Move N succeeds state path (state.fork path i) [.forked (i :: path)]
  | spawned {i : Nat} (here : state.point path = .spawning i) (all : N ≤ i) :
      Move N succeeds state path (state.moveTo path (.waiting 0)) []
  | execute {i : Nat} (here : state.point path = .executing i)
      (good : succeeds path) :
      Move N succeeds state path (state.moveTo path .running) []
  | fail {i : Nat} (here : state.point path = .executing i)
      (bad : succeeds path = false) :
      Move N succeeds state path (state.moveTo path (.spawning (i + 1)))
        [.failed path]
  | exit (here : state.point path = .running) :
      Move N succeeds state path (state.moveTo path .exited) []
  | nobody {i : Nat} (here : state.point path = .waiting i) (more : i < N)
      (childless : state.Childless path) :
      Move N succeeds state path (state.moveTo path (.waiting (i + 1))) []
  | reap {i j : Nat} (here : state.point path = .waiting i) (more : i < N)
      (child : j :: path ∈ state.processes)
      (exited : state.point (j :: path) = .exited) :
      Move N succeeds state path
        ((state.moveTo path (.waiting (i + 1))).moveTo (j :: path) .reaped) []
  | waited {i : Nat} (here : state.point path = .waiting i) (all : N ≤ i) :
      Move N succeeds state path (state.moveTo path .printing) []
  | print (here : state.point path = .printing) :
      Move N succeeds state path (state.moveTo path .exited) [.printed path]

section Step

variable {N : Nat} {succeeds : Path → Bool} {state next : State} {path : Path}
  {action : Action} {events : List Event}

theorem processStep_move
    (taken : processStep N succeeds state path = some (next, events)) :
    Move N succeeds state path next events := by
  unfold processStep at taken
  split at taken
  case h_1 i here =>
    split at taken
    case isTrue more =>
      cases taken
      exact .fork here more
    case isFalse all =>
      cases taken
      exact .spawned here (Nat.le_of_not_lt all)
  case h_2 i here =>
    split at taken
    case isTrue good =>
      cases taken
      exact .execute here good
    case isFalse bad =>
      cases taken
      exact .fail here (Bool.not_eq_true _ ▸ bad)
  case h_3 here =>
    cases taken
    exact .exit here
  case h_4 i here =>
    split at taken
    case isTrue more =>
      split at taken
      case isTrue childless =>
        cases taken
        exact .nobody here more childless
      case isFalse => cases taken
    case isFalse all =>
      cases taken
      exact .waited here (Nat.le_of_not_lt all)
  case h_5 here =>
    cases taken
    exact .print here
  case h_6 | h_7 => cases taken

theorem waitStep_move {j : Nat}
    (taken : waitStep N state path j = some (next, events)) :
    Move N succeeds state path next events := by
  unfold waitStep at taken
  split at taken
  case h_1 i here =>
    split at taken
    case isTrue able =>
      obtain ⟨more, child, exited⟩ := able
      cases taken
      exact .reap here more child exited
    case isFalse => cases taken
  case h_2 => cases taken

theorem step_move (taken : step N succeeds state action = some (next, events)) :
    ∃ path ∈ state.processes, Move N succeeds state path next events := by
  cases action with
  | process path =>
      simp only [step] at taken
      split at taken
      case isTrue present => exact ⟨path, present, processStep_move taken⟩
      case isFalse => cases taken
  | wait path i =>
      simp only [step] at taken
      split at taken
      case isTrue present => exact ⟨path, present, waitStep_move taken⟩
      case isFalse => cases taken

end Step

end SysOp.Lab1.Zad2
