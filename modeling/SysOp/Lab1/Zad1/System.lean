import SysOp.Foundation.Machine
import SysOp.Foundation.Population
import SysOp.Foundation.Stream
import SysOp.Foundation.Text

/-!
# The processes of `zad1`

`main.c` and `main_vfork.c` start N children and wait for them.  Every child
increments `zmiennaGlobalna`, prints its line M times and calls `_exit`.  With
`fork` it does so in a copy of the memory of its parent, to which the buffer of
`stdout` belongs; with `vfork` in that memory itself, while the parent sleeps.

`fork` and `vfork` may fail.  A signed overflow has no step.
-/

namespace SysOp.Lab1.Zad1

open SysOp.Foundation

abbrev LONG_MAX : Int := 9223372036854775807

abbrev LONG_MIN : Int := -9223372036854775808

/-- With base 10: the number and where it ends. -/
def strtol (text : Bytes) : Int × Bytes :=
  match scanInt text with
  | none => (0, text)
  | some n =>
      (max LONG_MIN (min n LONG_MAX), (unsigned text).dropWhile isdigit)

def usage (program : Bytes) : Bytes :=
  bytes "Użycie programu: " ++ program ++ bytes " <liczba>\n"

/-- What is printed before the loops, and N, which is absent if the program
returns at once.  A malformed N does not keep it from going on. -/
def arguments : List Bytes → Bytes × Option Int
  | [program, input] =>
      let (N, endptr) := strtol input
      (if endptr.length = input.length ∨ endptr ≠ [] then usage program else [],
        some N)
  | argv => (usage (argv.headD (bytes "(null)")), none)

/-- `"Potomek (%d)\n"`. -/
def childLine (pid : Int) : Bytes :=
  bytes "Potomek (" ++ decimal pid ++ bytes ")\n"

/-- `"Rodzic (%d) zmiennaGlobalna=%d\n"`. -/
def parentLine (pid zmiennaGlobalna : Int) : Bytes :=
  bytes "Rodzic (" ++ decimal pid ++ bytes ") zmiennaGlobalna=" ++
    decimal zmiennaGlobalna ++ bytes "\n"

/-- `stdout` is what is pending in the buffer of the stream. -/
structure Memory where
  zmiennaGlobalna : Int
  stdout : Bytes

/-- Whoever prints the line of a child. -/
abbrev Event := Int

/-- `testing` is the test of the loop over `j`. -/
inductive ChildPoint where
  | incrementing
  | testing (j : Nat)
  | printing (j : Nat)
  | exiting
  | zombie
  | reaped
  deriving DecidableEq

/-- The path of a child in whatever memory it has. -/
def childStep (M : Nat) (buffering : Buffering) (early : Nat) (pid : Int)
    (output : Bytes) (memory : Memory) :
    ChildPoint → Option (Bytes × Memory × ChildPoint × List Event)
  | .incrementing =>
      if memory.zmiennaGlobalna + 1 ≤ INT_MAX then
        some (output,
          { memory with zmiennaGlobalna := memory.zmiennaGlobalna + 1 },
          .testing 0, [])
      else none
  | .testing j =>
      some (output, memory, if j < M then .printing j else .exiting, [])
  | .printing j =>
      (buffering.print isNewline early memory.stdout (childLine pid)).map
        fun (passed, stdout) =>
          (output ++ passed, { memory with stdout }, .testing (j + 1), [pid])
  | .exiting => some (output, memory, .zombie, [])
  | .zombie | .reaped => none

/-- `forking` and `waiting` are the tests of the two loops over `i`. -/
inductive ParentPoint where
  | parsing
  | forking (i : Nat)
  | waiting (i : Nat)
  | printing
  | exiting (code : Nat)
  | returned (code : Nat)
  deriving DecidableEq

structure Parent where
  pid : Int
  memory : Memory
  point : ParentPoint

/-- The parent, apart from `fork` and a `wait` that finds somebody; `idle` is
that there is nobody to wait for. -/
def parentStep (argv : List Bytes) (buffering : Buffering) (early : Nat)
    (idle : Bool) (output : Bytes) (parent : Parent) :
    Option (Bytes × Parent) :=
  let N := (arguments argv).2.getD 0
  match parent.point with
  | .parsing =>
      (buffering.print isNewline early parent.memory.stdout
        (arguments argv).1).map fun (passed, stdout) =>
          (output ++ passed,
            { parent with
              memory := { parent.memory with stdout }
              point := if (arguments argv).2.isSome then .forking 0
                else .exiting 1 })
  | .forking i =>
      if (i : Int) < N then none
      else some (output, { parent with point := .waiting 0 })
  | .waiting i =>
      if (i : Int) < N then
        if idle then some (output, { parent with point := .waiting (i + 1) })
        else none
      else some (output, { parent with point := .printing })
  | .printing =>
      (buffering.print isNewline early parent.memory.stdout
        (parentLine parent.pid parent.memory.zmiennaGlobalna)).map
        fun (passed, stdout) =>
          (output ++ passed,
            { parent with
              memory := { parent.memory with stdout }, point := .exiting 0 })
  | .exiting code =>
      some (output ++ parent.memory.stdout,
        { parent with
          memory := { parent.memory with stdout := [] }
          point := .returned code })
  | .returned _ => none

/-- `pid` is what `fork` returns to the parent; `none` is -1. -/
inductive Action where
  | parent (early : Nat)
  | fork (pid : Option Int)
  | wait (index : Nat)
  | child (index : Nat) (early : Nat)

/-- The parent before `main`. -/
def initialParent (pid : Int) : Parent where
  pid := pid
  memory := { zmiennaGlobalna := 1, stdout := [] }
  point := .parsing

end SysOp.Lab1.Zad1
