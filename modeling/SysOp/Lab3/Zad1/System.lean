import SysOp.Foundation.Descriptors
import SysOp.Foundation.Machine
import SysOp.Foundation.Population

/-!
# The processes of `zad1/main.c`

In each round the parent opens k pipes and forks k children, collects a partial
sum from each, and waits for each.  A child inherits a copy of everything, in
particular of the descriptors the parent has open at that moment.

`pipe`, `fork`, `write` and `read` succeed here; `pipe` may return any two free
numbers.  What a child computes is a parameter.
-/

namespace SysOp.Lab3.Zad1

open SysOp.Foundation

/-- The pipe `fd[index]` of the round with `round` processes. -/
structure Pipe where
  round : Nat
  index : Nat
  deriving DecidableEq

/-- The two ends of a pipe, 0 and 1 in the source. -/
inductive End where
  | read
  | write
  deriving DecidableEq

inductive OpenFile where
  | other (file : Nat)
  | pipe (pipe : Pipe) (side : End)
  deriving DecidableEq

abbrev Table := DescriptorTable OpenFile

/-- What the parent has open before it opens any pipe. -/
structure Inherited where
  table : Table
  noPipes : ∀ {fd pipe side}, table.lookup fd ≠ some (.pipe pipe side)

/-- The two numbers `fd[i]`. -/
structure Ends where
  read : Nat
  write : Nat
  deriving DecidableEq

def Ends.get (ends : Ends) : End → Nat
  | .read => ends.read
  | .write => ends.write

/-- `closingElder` is in the loop over `j`. -/
inductive ChildPoint where
  | closingOwn
  | closingElder (j : Nat)
  | writing
  | closingWrite
  | exiting
  | zombie
  | reaped
  deriving DecidableEq

/-- `pipe` has the values of `k` and `i` the child was forked with. -/
structure Child where
  pipe : Pipe
  fds : List Ends
  table : Table
  point : ChildPoint

/-- `starting` is the test of the loop over `k`, `spawning` and `collecting`
those of the two loops over `i`. -/
inductive ParentPoint where
  | starting
  | spawning (i : Nat)
  | piping (i : Nat)
  | forking (i : Nat)
  | closingWrite (i : Nat)
  | collecting (i : Nat)
  | reading (i : Nat)
  | closingRead (i : Nat)
  | waiting (i : Nat)
  | printing
  | finished
  deriving DecidableEq

universe u

/-- `fds` is the part of `fd` that `pipe` has filled in. -/
structure Parent (Double : Type u) where
  k : Nat
  fds : List Ends
  table : Table
  totalSum : Double
  point : ParentPoint

structure State (Double : Type u) where
  parent : Parent Double
  children : List Child
  contents : Pipe → List Double

inductive Event (Double : Type u) where
  | received (pipe : Pipe) (partialSum : Double)
  | printed (k : Nat) (totalSum : Double)
  deriving DecidableEq

/-- `parent` is any step of the parent that involves no choice. -/
inductive Action where
  | parent
  | pipe (ends : Ends)
  | wait (index : Nat)
  | child (index : Nat)

variable {Double : Type u}

/-- Somebody could still write to the pipe. -/
def State.HasWriter (state : State Double) (pipe : Pipe) : Prop :=
  state.parent.table.HasOpen (.pipe pipe .write) ∨
    ∃ child ∈ state.children, child.table.HasOpen (.pipe pipe .write)

instance (state : State Double) (pipe : Pipe) :
    Decidable (state.HasWriter pipe) :=
  inferInstanceAs (Decidable (_ ∨ _))

/-- Every child has been waited for. -/
def State.AllReaped (state : State Double) : Prop :=
  ∀ child ∈ state.children, child.point = .reaped

instance (state : State Double) : Decidable state.AllReaped :=
  inferInstanceAs (Decidable (∀ child ∈ state.children, _))

/-- The child from `fork` to `exit`. -/
def childStep (partialSum : Pipe → Double) (contents : Pipe → List Double)
    (child : Child) :
    Option ((Pipe → List Double) × Child × List (Event Double)) :=
  let i := child.pipe.index
  match child.point with
  | .closingOwn =>
      child.fds[i]?.map fun ends =>
        (contents,
          { child with
            table := child.table.erase ends.read
            point := .closingElder 0 }, [])
  | .closingElder j =>
      if j < i then
        child.fds[j]?.map fun ends =>
          (contents,
            { child with
              table := child.table.erase ends.read
              point := .closingElder (j + 1) }, [])
      else some (contents, { child with point := .writing }, [])
  | .writing =>
      child.fds[i]?.bind fun ends =>
        match child.table.lookup ends.write with
        | some (.pipe pipe .write) =>
            some (Function.update contents pipe
                (contents pipe ++ [partialSum child.pipe]),
              { child with point := .closingWrite }, [])
        | _ => none
  | .closingWrite =>
      child.fds[i]?.map fun ends =>
        (contents,
          { child with
            table := child.table.erase ends.write
            point := .exiting }, [])
  | .exiting =>
      some (contents, { child with table := ∅, point := .zombie }, [])
  | .zombie | .reaped => none

variable [Zero Double] [Add Double]

/-- The parent, apart from `pipe` and a `wait` that finds somebody. -/
def parentStep (n : Nat) (state : State Double) :
    Option (State Double × List (Event Double)) :=
  let parent := state.parent
  match parent.point with
  | .starting =>
      some ({ state with
        parent :=
          if parent.k ≤ n then { parent with point := .spawning 0 }
          else { parent with point := .finished } }, [])
  | .spawning i =>
      some ({ state with
        parent :=
          if i < parent.k then { parent with point := .piping i }
          else { parent with totalSum := 0, point := .collecting 0 } }, [])
  | .piping _ => none
  | .forking i =>
      some ({ state with
        parent := { parent with point := .closingWrite i }
        children := state.children ++
          [{ pipe := ⟨parent.k, i⟩, fds := parent.fds, table := parent.table,
             point := .closingOwn }] }, [])
  | .closingWrite i =>
      parent.fds[i]?.map fun ends =>
        ({ state with
          parent := { parent with
            table := parent.table.erase ends.write
            point := .spawning (i + 1) } }, [])
  | .collecting i =>
      some ({ state with
        parent := { parent with
          point := if i < parent.k then .reading i else .printing } }, [])
  | .reading i =>
      parent.fds[i]?.bind fun ends =>
        match parent.table.lookup ends.read with
        | some (.pipe pipe .read) =>
            match state.contents pipe with
            | partialSum :: rest =>
                some ({ state with
                    parent := { parent with
                      totalSum := parent.totalSum + partialSum
                      point := .closingRead i }
                    contents := Function.update state.contents pipe rest },
                  [.received pipe partialSum])
            | [] =>
                if state.HasWriter pipe then none
                else
                  some ({ state with
                    parent := { parent with point := .closingRead i } }, [])
        | _ => none
  | .closingRead i =>
      parent.fds[i]?.map fun ends =>
        ({ state with
          parent := { parent with
            table := parent.table.erase ends.read
            point := .waiting i } }, [])
  | .waiting i =>
      if state.AllReaped then
        some ({ state with
          parent := { parent with point := .collecting (i + 1) } }, [])
      else none
  | .printing =>
      some ({ state with
          parent := { parent with
            k := parent.k + 1
            fds := []
            point := .starting } },
        [.printed parent.k parent.totalSum])
  | .finished => none

/-- `pipe(fd[i])` with the two numbers the system chooses. -/
def pipeStep (ends : Ends) (state : State Double) :
    Option (State Double × List (Event Double)) :=
  let parent := state.parent
  match parent.point with
  | .piping i =>
      if ends.read ∉ parent.table ∧ ends.write ∉ parent.table ∧
          ends.read ≠ ends.write then
        some ({ state with
          parent := { parent with
            fds := parent.fds ++ [ends]
            table := (parent.table.insert ends.read
                (.pipe ⟨parent.k, i⟩ .read)).insert ends.write
              (.pipe ⟨parent.k, i⟩ .write)
            point := .forking i } }, [])
      else none
  | _ => none

/-- `wait(NULL)` finds that the child at `index` has exited. -/
def waitStep (index : Nat) (state : State Double) :
    Option (State Double × List (Event Double)) :=
  match state.parent.point, state.children[index]? with
  | .waiting i, some child =>
      if child.point = .zombie then
        some ({ state with
          parent := { state.parent with point := .collecting (i + 1) }
          children := state.children.set index { child with point := .reaped } },
          [])
      else none
  | _, _ => none

def step (n : Nat) (partialSum : Pipe → Double) (state : State Double) :
    Action → Option (State Double × List (Event Double))
  | .parent => parentStep n state
  | .pipe ends => pipeStep ends state
  | .wait index => waitStep index state
  | .child index =>
      (moveAt state.children index (childStep partialSum state.contents)).map
        fun (contents, children, events) =>
          ({ state with contents, children }, events)

def initial (inherited : Inherited) : State Double where
  parent :=
    { k := 1, fds := [], table := inherited.table, totalSum := 0,
      point := .starting }
  children := []
  contents := fun _ => []

def zad1 (n : Nat) (inherited : Inherited) (partialSum : Pipe → Double) :
    Machine (State Double) Action (Event Double) where
  start := initial inherited
  step := step n partialSum

end SysOp.Lab3.Zad1
