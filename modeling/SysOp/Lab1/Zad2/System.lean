import SysOp.Foundation.Machine
import Mathlib.Logic.Function.Basic

/-!
# The processes of `zad2/main.c`

`main` forks N children that each execute `child.out`, and waits N times.  A
child whose `execl` fails goes on in the loop of its parent, as if it were the
parent: it forks children of its own, waits, and prints the line `Rodzic`.

Every `fork` succeeds here; which `execl` does is a parameter, and so is when
`child.out` ends.
-/

namespace SysOp.Lab1.Zad2

open SysOp.Foundation

/-- The values of `i` at which a process and its ancestors were forked, the
latest first; `main` itself has none. -/
abbrev Path := List Nat

/-- `spawning` and `waiting` are the tests of the two loops over `i`, and
`running` is in `child.out`. -/
inductive Point where
  | spawning (i : Nat)
  | executing (i : Nat)
  | running
  | waiting (i : Nat)
  | printing
  | exited
  | reaped
  deriving DecidableEq

/-- `processes` has them in the order of their forks. -/
structure State where
  processes : List Path
  point : Path → Point

/-- `printed` is the line `Rodzic`. -/
inductive Event where
  | forked (path : Path)
  | failed (path : Path)
  | printed (path : Path)
  deriving DecidableEq

/-- `wait` is a `wait(NULL)` that finds the child forked at `i`; `process` is
any other step. -/
inductive Action where
  | process (path : Path)
  | wait (path : Path) (i : Nat)

namespace State

def moveTo (state : State) (path : Path) (point : Point) : State :=
  { state with point := Function.update state.point path point }

/-- The child is a copy of its parent. -/
def fork (state : State) (path : Path) (i : Nat) : State where
  processes := state.processes ++ [i :: path]
  point :=
    Function.update (Function.update state.point path (.spawning (i + 1)))
      (i :: path) (.executing i)

def children (state : State) (path : Path) : List Path :=
  state.processes.filter fun child => child.tail? = some path

/-- There is nobody to wait for. -/
def Childless (state : State) (path : Path) : Prop :=
  ∀ child ∈ state.children path, state.point child = .reaped

instance (state : State) (path : Path) : Decidable (state.Childless path) :=
  inferInstanceAs (Decidable (∀ child ∈ state.children path, _))

end State

/-- Any step but a `wait` that finds a child. -/
def processStep (N : Nat) (succeeds : Path → Bool) (state : State)
    (path : Path) : Option (State × List Event) :=
  match state.point path with
  | .spawning i =>
      if i < N then some (state.fork path i, [.forked (i :: path)])
      else some (state.moveTo path (.waiting 0), [])
  | .executing i =>
      if succeeds path then some (state.moveTo path .running, [])
      else some (state.moveTo path (.spawning (i + 1)), [.failed path])
  | .running => some (state.moveTo path .exited, [])
  | .waiting i =>
      if i < N then
        if state.Childless path then
          some (state.moveTo path (.waiting (i + 1)), [])
        else none
      else some (state.moveTo path .printing, [])
  | .printing => some (state.moveTo path .exited, [.printed path])
  | .exited | .reaped => none

def waitStep (N : Nat) (state : State) (path : Path) (j : Nat) :
    Option (State × List Event) :=
  match state.point path with
  | .waiting i =>
      if i < N ∧ j :: path ∈ state.processes ∧
          state.point (j :: path) = .exited then
        some ((state.moveTo path (.waiting (i + 1))).moveTo (j :: path) .reaped,
          [])
      else none
  | _ => none

def step (N : Nat) (succeeds : Path → Bool) (state : State) :
    Action → Option (State × List Event)
  | .process path =>
      if path ∈ state.processes then processStep N succeeds state path else none
  | .wait path i =>
      if path ∈ state.processes then waitStep N state path i else none

def initial : State where
  processes := [[]]
  point := fun _ => .spawning 0

def zad2 (N : Nat) (succeeds : Path → Bool) : Machine State Action Event where
  start := initial
  step := step N succeeds

end SysOp.Lab1.Zad2
