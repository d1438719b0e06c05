import SysOp.Lab1.Zad3.System

/-!
# What a step of `zad3` can be

The inversion of `step`, for a child and for the whole program.
-/

namespace SysOp.Lab1.Zad3

open SysOp.Foundation

inductive ChildMove (M : Nat) (file : OutputFile) (index : Nat)
    (child : Child) : OutputFile → Child → List Event → Prop where
  | execute (here : child.point = .executing) :
      ChildMove M file index child file { child with point := .opening } []
  | fopen (here : child.point = .opening) :
      ChildMove M file index child
        { file with content := some (file.content.getD []) }
        { child with point := .locking } []
  | lock (here : child.point = .locking) (free : file.lock = none) :
      ChildMove M file index child { file with lock := some index }
        { child with point := .testing 0 } []
  | more {i : Nat} (here : child.point = .testing i) (more : i < M) :
      ChildMove M file index child file { child with point := .writing i } []
  | all {i : Nat} (here : child.point = .testing i) (all : M ≤ i) :
      ChildMove M file index child file { child with point := .unlocking } []
  | fwrite {i : Nat} {passed kept : Bytes} (here : child.point = .writing i)
      (split : passed ++ kept = child.buffer ++ message child.pid) :
      ChildMove M file index child (file.append passed)
        { child with buffer := kept, point := .flushing i } []
  | fflush {i : Nat} (here : child.point = .flushing i) :
      ChildMove M file index child (file.append child.buffer)
        { child with buffer := [], point := .stepping i } []
  | increment {i : Nat} (here : child.point = .stepping i)
      (small : (i + 1 : Nat) ≤ INT_MAX) :
      ChildMove M file index child file
        { child with point := .testing (i + 1) } []
  | unlock (here : child.point = .unlocking) :
      ChildMove M file index child { file with lock := none }
        { child with point := .closing } [.released child.pid]
  | fclose (here : child.point = .closing) :
      ChildMove M file index child (file.append child.buffer)
        { child with buffer := [], point := .zombie } []

section Child

variable {M index : Nat} {file next : OutputFile} {child after : Child}
  {events : List Event}

theorem childStep_move
    (taken : childStep M file index child = some (next, after, events)) :
    ChildMove M file index child next after events := by
  unfold childStep at taken
  split at taken
  case h_1 here =>
    cases taken
    exact .execute here
  case h_2 here =>
    cases taken
    exact .fopen here
  case h_3 here =>
    split at taken
    case isTrue free =>
      cases taken
      exact .lock here free
    case isFalse => cases taken
  case h_4 i here =>
    cases taken
    split
    case isTrue more => exact .more here more
    case isFalse all => exact .all here (not_lt.mp all)
  case h_5 => cases taken
  case h_6 i here =>
    cases taken
    exact .fflush here
  case h_7 i here =>
    split at taken
    case isTrue small =>
      cases taken
      exact .increment here small
    case isFalse => cases taken
  case h_8 here =>
    cases taken
    exact .unlock here
  case h_9 here =>
    cases taken
    exact .fclose here
  case h_10 | h_11 => cases taken

theorem writeStep_move {early : Nat}
    (taken : writeStep early file child = some (next, after, events)) :
    ChildMove M file index child next after events := by
  unfold writeStep at taken
  split at taken
  case h_1 i here =>
    cases taken
    exact .fwrite here (List.take_append_drop ..)
  case h_2 => cases taken

end Child

inductive Move (N M : Nat) (state : State) : State → List Event → Prop where
  | remove {old : Bytes} (here : state.parent.point = .removing)
      (present : state.file.content = some old) :
      Move N M state
        { state with
          file := { state.file with content := none }
          parent := { state.parent with point := .spawning 0 } } []
  | absent (here : state.parent.point = .removing)
      (absent : state.file.content = none) :
      Move N M state
        { state with parent := { state.parent with point := .returned 1 } } []
  | fork {i : Nat} {pid : Int} (here : state.parent.point = .spawning i)
      (more : i < N) (positive : 0 < pid) (small : pid ≤ INT_MAX)
      (unused : state.Unused pid) :
      Move N M state
        { state with
          parent := { state.parent with point := .spawning (i + 1) }
          children := state.children ++
            [{ pid, buffer := [], point := .executing }] } []
  | spawned {i : Nat} (here : state.parent.point = .spawning i)
      (all : N ≤ i) :
      Move N M state
        { state with parent := { state.parent with point := .waiting 0 } } []
  | reap {i index : Nat} {child : Child}
      (here : state.parent.point = .waiting i) (more : i < N)
      (found : state.children[index]? = some child)
      (exited : child.point = .zombie) :
      Move N M state
        { state with
          parent := { state.parent with point := .waiting (i + 1) }
          children := state.children.set index { child with point := .reaped } }
        []
  | nobody {i : Nat} (here : state.parent.point = .waiting i) (more : i < N)
      (reaped : state.AllReaped) :
      Move N M state
        { state with parent := { state.parent with point := .waiting (i + 1) } }
        []
  | waited {i : Nat} (here : state.parent.point = .waiting i) (all : N ≤ i) :
      Move N M state
        { state with parent := { state.parent with point := .printing } } []
  | print (here : state.parent.point = .printing) :
      Move N M state
        { state with parent := { state.parent with point := .returned 0 } }
        [.printed state.parent.pid]
  | child {index : Nat} {child after : Child} {file : OutputFile}
      {events : List Event} (found : state.children[index]? = some child)
      (move : ChildMove M state.file index child file after events) :
      Move N M state
        { state with file, children := state.children.set index after } events

section Step

variable {N M : Nat} {state next : State} {action : Action}
  {events : List Event}

theorem parentStep_move (taken : parentStep N state = some (next, events)) :
    Move N M state next events := by
  unfold parentStep at taken
  dsimp only at taken
  split at taken
  case h_1 here =>
    split at taken
    case h_1 old present =>
      cases taken
      exact .remove here present
    case h_2 absent =>
      cases taken
      exact .absent here absent
  case h_2 i here =>
    split at taken
    case isTrue => cases taken
    case isFalse all =>
      cases taken
      exact .spawned here (not_lt.mp all)
  case h_3 i here =>
    split at taken
    case isTrue more =>
      split at taken
      case isTrue reaped =>
        cases taken
        exact .nobody here more reaped
      case isFalse => cases taken
    case isFalse all =>
      cases taken
      exact .waited here (not_lt.mp all)
  case h_4 here =>
    cases taken
    exact .print here
  case h_5 => cases taken

theorem forkStep_move {pid : Int}
    (taken : forkStep N pid state = some (next, events)) :
    Move N M state next events := by
  unfold forkStep at taken
  split at taken
  case h_1 i here =>
    split at taken
    case isTrue able =>
      obtain ⟨more, positive, small, unused⟩ := able
      cases taken
      exact .fork here more positive small unused
    case isFalse => cases taken
  case h_2 => cases taken

theorem waitStep_move {index : Nat}
    (taken : waitStep N index state = some (next, events)) :
    Move N M state next events := by
  unfold waitStep at taken
  split at taken
  case h_1 i child here found =>
    split at taken
    case isTrue able =>
      cases taken
      exact .reap here able.1 found able.2
    case isFalse => cases taken
  case h_2 => cases taken

theorem moveChild_move {index : Nat}
    {move : Child → Option (OutputFile × Child × List Event)}
    (moves : ∀ {child file after events},
      move child = some (file, after, events) →
      ChildMove M state.file index child file after events)
    (taken : state.moveChild index move = some (next, events)) :
    Move N M state next events := by
  obtain ⟨⟨file, children, _⟩, moved, same⟩ := Option.map_eq_some_iff.mp taken
  obtain ⟨child, after, found, made, rfl⟩ := moveAt_eq_some_iff.mp moved
  cases same
  exact .child found (moves made)

theorem step_move (taken : step N M state action = some (next, events)) :
    Move N M state next events := by
  cases action with
  | parent => exact parentStep_move taken
  | fork pid => exact forkStep_move taken
  | wait index => exact waitStep_move taken
  | child index => exact moveChild_move childStep_move taken
  | write index early => exact moveChild_move writeStep_move taken

end Step

end SysOp.Lab1.Zad3
