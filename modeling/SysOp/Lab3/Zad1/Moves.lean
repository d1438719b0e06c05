import SysOp.Lab3.Zad1.System

/-!
# What a step of `zad1` can be

The inversion of `step`, for a child and for the whole program.
-/

namespace SysOp.Lab3.Zad1

open SysOp.Foundation

universe u

variable {Double : Type u}

inductive ChildMove (partialSum : Pipe → Double) (contents : Pipe → List Double)
    (child : Child) : (Pipe → List Double) → Child → Prop where
  | closeOwn {ends : Ends} (here : child.point = .closingOwn)
      (found : child.fds[child.pipe.index]? = some ends) :
      ChildMove partialSum contents child contents
        { child with
          table := child.table.erase (ends.get .read)
          point := .closingElder 0 }
  | closeElder {j : Nat} {ends : Ends} (here : child.point = .closingElder j)
      (elder : j < child.pipe.index) (found : child.fds[j]? = some ends) :
      ChildMove partialSum contents child contents
        { child with
          table := child.table.erase (ends.get .read)
          point := .closingElder (j + 1) }
  | closed {j : Nat} (here : child.point = .closingElder j)
      (last : child.pipe.index ≤ j) :
      ChildMove partialSum contents child contents
        { child with point := .writing }
  | write {ends : Ends} {pipe : Pipe} (here : child.point = .writing)
      (found : child.fds[child.pipe.index]? = some ends)
      (stands : child.table.lookup (ends.get .write) =
        some (.pipe pipe .write)) :
      ChildMove partialSum contents child
        (Function.update contents pipe
          (contents pipe ++ [partialSum child.pipe]))
        { child with point := .closingWrite }
  | closeWrite {ends : Ends} (here : child.point = .closingWrite)
      (found : child.fds[child.pipe.index]? = some ends) :
      ChildMove partialSum contents child contents
        { child with
          table := child.table.erase (ends.get .write)
          point := .exiting }
  | exit (here : child.point = .exiting) :
      ChildMove partialSum contents child contents
        { child with table := ∅, point := .zombie }

theorem childStep_move {partialSum : Pipe → Double}
    {contents after : Pipe → List Double} {child moved : Child}
    {events : List (Event Double)}
    (taken : childStep partialSum contents child =
      some (after, moved, events)) :
    ChildMove partialSum contents child after moved ∧ events = [] := by
  unfold childStep at taken
  dsimp only at taken
  split at taken
  case h_1 here =>
    obtain ⟨ends, found, same⟩ := Option.map_eq_some_iff.mp taken
    cases same
    exact ⟨.closeOwn here found, rfl⟩
  case h_2 j here =>
    split at taken
    case isTrue elder =>
      obtain ⟨ends, found, same⟩ := Option.map_eq_some_iff.mp taken
      cases same
      exact ⟨.closeElder here elder found, rfl⟩
    case isFalse last =>
      cases taken
      exact ⟨.closed here (not_lt.mp last), rfl⟩
  case h_3 here =>
    obtain ⟨ends, found, written⟩ := Option.bind_eq_some_iff.mp taken
    split at written
    case h_1 pipe stands =>
      cases written
      exact ⟨.write here found stands, rfl⟩
    case h_2 => cases written
  case h_4 here =>
    obtain ⟨ends, found, same⟩ := Option.map_eq_some_iff.mp taken
    cases same
    exact ⟨.closeWrite here found, rfl⟩
  case h_5 here =>
    cases taken
    exact ⟨.exit here, rfl⟩
  case h_6 | h_7 => cases taken

variable [Zero Double] [Add Double]

inductive Move (n : Nat) (partialSum : Pipe → Double) (state : State Double) :
    State Double → List (Event Double) → Prop where
  | start (here : state.parent.point = .starting) (more : state.parent.k ≤ n) :
      Move n partialSum state
        { state with parent := { state.parent with point := .spawning 0 } } []
  | finish (here : state.parent.point = .starting) (all : n < state.parent.k) :
      Move n partialSum state
        { state with parent := { state.parent with point := .finished } } []
  | spawn {i : Nat} (here : state.parent.point = .spawning i)
      (more : i < state.parent.k) :
      Move n partialSum state
        { state with parent := { state.parent with point := .piping i } } []
  | spawned {i : Nat} (here : state.parent.point = .spawning i)
      (all : state.parent.k ≤ i) :
      Move n partialSum state
        { state with
          parent := { state.parent with
            totalSum := 0
            point := .collecting 0 } } []
  | pipe {i : Nat} {ends : Ends} (here : state.parent.point = .piping i)
      (readFree : ends.get .read ∉ state.parent.table)
      (writeFree : ends.get .write ∉ state.parent.table)
      (different : ends.get .read ≠ ends.get .write) :
      Move n partialSum state
        { state with
          parent := { state.parent with
            fds := state.parent.fds ++ [ends]
            table := (state.parent.table.insert (ends.get .read)
                (.pipe ⟨state.parent.k, i⟩ .read)).insert (ends.get .write)
              (.pipe ⟨state.parent.k, i⟩ .write)
            point := .forking i } } []
  | fork {i : Nat} (here : state.parent.point = .forking i) :
      Move n partialSum state
        { state with
          parent := { state.parent with point := .closingWrite i }
          children := state.children ++
            [{ pipe := ⟨state.parent.k, i⟩, fds := state.parent.fds,
               table := state.parent.table, point := .closingOwn }] } []
  | closeWrite {i : Nat} {ends : Ends}
      (here : state.parent.point = .closingWrite i)
      (found : state.parent.fds[i]? = some ends) :
      Move n partialSum state
        { state with
          parent := { state.parent with
            table := state.parent.table.erase (ends.get .write)
            point := .spawning (i + 1) } } []
  | collect {i : Nat} (here : state.parent.point = .collecting i)
      (more : i < state.parent.k) :
      Move n partialSum state
        { state with parent := { state.parent with point := .reading i } } []
  | collected {i : Nat} (here : state.parent.point = .collecting i)
      (all : state.parent.k ≤ i) :
      Move n partialSum state
        { state with parent := { state.parent with point := .printing } } []
  | receive {i : Nat} {ends : Ends} {pipe : Pipe} {value : Double}
      {rest : List Double} (here : state.parent.point = .reading i)
      (found : state.parent.fds[i]? = some ends)
      (stands : state.parent.table.lookup (ends.get .read) =
        some (.pipe pipe .read))
      (full : state.contents pipe = value :: rest) :
      Move n partialSum state
        { state with
          parent := { state.parent with
            totalSum := state.parent.totalSum + value
            point := .closingRead i }
          contents := Function.update state.contents pipe rest }
        [.received pipe value]
  | endOfFile {i : Nat} {ends : Ends} {pipe : Pipe}
      (here : state.parent.point = .reading i)
      (found : state.parent.fds[i]? = some ends)
      (stands : state.parent.table.lookup (ends.get .read) =
        some (.pipe pipe .read))
      (empty : state.contents pipe = []) (deserted : ¬ state.HasWriter pipe) :
      Move n partialSum state
        { state with parent := { state.parent with point := .closingRead i } }
        []
  | closeRead {i : Nat} {ends : Ends}
      (here : state.parent.point = .closingRead i)
      (found : state.parent.fds[i]? = some ends) :
      Move n partialSum state
        { state with
          parent := { state.parent with
            table := state.parent.table.erase (ends.get .read)
            point := .waiting i } } []
  | childless {i : Nat} (here : state.parent.point = .waiting i)
      (reaped : state.AllReaped) :
      Move n partialSum state
        { state with
          parent := { state.parent with point := .collecting (i + 1) } } []
  | reap {i index : Nat} {child : Child}
      (here : state.parent.point = .waiting i)
      (found : state.children[index]? = some child)
      (exited : child.point = .zombie) :
      Move n partialSum state
        { state with
          parent := { state.parent with point := .collecting (i + 1) }
          children := state.children.set index
            { child with point := .reaped } } []
  | print (here : state.parent.point = .printing) :
      Move n partialSum state
        { state with
          parent := { state.parent with
            k := state.parent.k + 1
            fds := []
            point := .starting } }
        [.printed state.parent.k state.parent.totalSum]
  | child {index : Nat} {child after : Child} {contents : Pipe → List Double}
      (found : state.children[index]? = some child)
      (moved : ChildMove partialSum state.contents child contents after) :
      Move n partialSum state
        { state with contents, children := state.children.set index after } []

section Steps

variable {n : Nat} {partialSum : Pipe → Double} {state next : State Double}
  {events : List (Event Double)}

theorem parentStep_move (taken : parentStep n state = some (next, events)) :
    Move n partialSum state next events := by
  unfold parentStep at taken
  dsimp only at taken
  split at taken
  case h_1 here =>
    split at taken
    case isTrue more =>
      cases taken
      exact .start here more
    case isFalse all =>
      cases taken
      exact .finish here (not_le.mp all)
  case h_2 i here =>
    split at taken
    case isTrue more =>
      cases taken
      exact .spawn here more
    case isFalse all =>
      cases taken
      exact .spawned here (not_lt.mp all)
  case h_3 => cases taken
  case h_4 i here =>
    cases taken
    exact .fork here
  case h_5 i here =>
    obtain ⟨ends, found, same⟩ := Option.map_eq_some_iff.mp taken
    cases same
    exact .closeWrite here found
  case h_6 i here =>
    split at taken
    case isTrue more =>
      cases taken
      exact .collect here more
    case isFalse all =>
      cases taken
      exact .collected here (not_lt.mp all)
  case h_7 i here =>
    obtain ⟨ends, found, read⟩ := Option.bind_eq_some_iff.mp taken
    split at read
    case h_1 pipe stands =>
      split at read
      case h_1 value rest full =>
        cases read
        exact .receive here found stands full
      case h_2 empty =>
        split at read
        case isTrue => cases read
        case isFalse deserted =>
          cases read
          exact .endOfFile here found stands empty deserted
    case h_2 => cases read
  case h_8 i here =>
    obtain ⟨ends, found, same⟩ := Option.map_eq_some_iff.mp taken
    cases same
    exact .closeRead here found
  case h_9 i here =>
    split at taken
    case isTrue reaped =>
      cases taken
      exact .childless here reaped
    case isFalse => cases taken
  case h_10 here =>
    cases taken
    exact .print here
  case h_11 => cases taken

theorem step_move {action : Action}
    (taken : step n partialSum state action = some (next, events)) :
    Move n partialSum state next events := by
  cases action with
  | parent => exact parentStep_move taken
  | pipe ends =>
      simp only [step, pipeStep] at taken
      split at taken
      case h_1 i here =>
        split at taken
        case isTrue free =>
          cases taken
          exact .pipe here free.1 free.2.1 free.2.2
        case isFalse => cases taken
      case h_2 => cases taken
  | wait index =>
      simp only [step, waitStep] at taken
      split at taken
      case h_1 i child here found =>
        split at taken
        case isTrue exited =>
          cases taken
          exact .reap here found exited
        case isFalse => cases taken
      case h_2 => cases taken
  | child index =>
      simp only [step, Option.map_eq_some_iff, Prod.exists,
        Prod.mk.injEq] at taken
      obtain ⟨contents, children, _, moved, rfl, rfl⟩ := taken
      obtain ⟨child, after, found, stepped, rfl⟩ :=
        moveAt_eq_some_iff.mp moved
      obtain ⟨childMove, rfl⟩ := childStep_move stepped
      exact .child found childMove

end Steps

end SysOp.Lab3.Zad1
