import SysOp.Foundation.Machine
import SysOp.Foundation.Mutex
import SysOp.Foundation.Population
import SysOp.Foundation.Text

/-!
# The processes of `zad3`

`main.c` has the old `output.txt` removed, forks N children, and waits for all
of them.  Every child runs `child.c`: it opens the file in append mode, locks it,
writes and flushes its line M times, and unlocks it.

All system calls succeed here, a `write` appends all it is given, and `flock`
excludes separate openings, of which every child has its own.  When the stream
passes on what `fwrite` leaves in its buffer is up to the library.
-/

namespace SysOp.Lab1.Zad3

open SysOp.Foundation

/-- `"Potomek (%d)\n"`. -/
def line (pid : Int) : Bytes :=
  bytes "Potomek (" ++ decimal pid ++ bytes ")\n"

/-- The first `msg_length` bytes of `buf`, which has 32. -/
def message (pid : Int) : Bytes :=
  cString (snprintf 32 (line pid))

/-- `testing` is the test of the loop over `i`, `stepping` its `++i`. -/
inductive ChildPoint where
  | executing
  | opening
  | locking
  | testing (i : Nat)
  | writing (i : Nat)
  | flushing (i : Nat)
  | stepping (i : Nat)
  | unlocking
  | closing
  | zombie
  | reaped
  deriving DecidableEq

/-- `buffer` is that of the stream `file`. -/
structure Child where
  pid : Int
  buffer : Bytes
  point : ChildPoint

/-- `output.txt`, and the child whose opening has it locked. -/
structure OutputFile where
  content : Option Bytes
  lock : Mutex Nat

def OutputFile.append (file : OutputFile) (text : Bytes) : OutputFile :=
  { file with content := file.content.map (· ++ text) }

/-- `spawning` and `waiting` are the tests of the two loops over `i`. -/
inductive ParentPoint where
  | removing
  | spawning (i : Nat)
  | waiting (i : Nat)
  | printing
  | returned (code : Nat)
  deriving DecidableEq

structure Parent where
  pid : Int
  point : ParentPoint

structure State where
  file : OutputFile
  parent : Parent
  children : List Child

inductive Event where
  | released (pid : Int)
  | printed (pid : Int)
  deriving DecidableEq

/-- `write` is the `fwrite` of a child, with as many bytes as are passed on at
once; `child` is any other of its steps. -/
inductive Action where
  | parent
  | fork (pid : Int)
  | wait (index : Nat)
  | child (index : Nat)
  | write (index : Nat) (early : Nat)

namespace State

/-- What has been written to `output.txt`. -/
def content (state : State) : Bytes :=
  state.file.content.getD []

/-- No other process has this number. -/
def Unused (state : State) (pid : Int) : Prop :=
  pid ≠ state.parent.pid ∧
    ∀ child ∈ state.children, child.pid = pid → child.point = .reaped

instance (state : State) (pid : Int) : Decidable (state.Unused pid) :=
  inferInstanceAs (Decidable (_ ∧ _))

/-- Every child has been waited for. -/
def AllReaped (state : State) : Prop :=
  ∀ child ∈ state.children, child.point = .reaped

instance (state : State) : Decidable state.AllReaped :=
  inferInstanceAs (Decidable (∀ child ∈ state.children, _))

end State

/-- The child at `index`, apart from `fwrite`. -/
def childStep (M : Nat) (file : OutputFile) (index : Nat) (child : Child) :
    Option (OutputFile × Child × List Event) :=
  match child.point with
  | .executing => some (file, { child with point := .opening }, [])
  | .opening =>
      some ({ file with content := some (file.content.getD []) },
        { child with point := .locking }, [])
  | .locking =>
      if file.lock = none then
        some ({ file with lock := some index },
          { child with point := .testing 0 }, [])
      else none
  | .testing i =>
      some (file,
        { child with point := if i < M then .writing i else .unlocking }, [])
  | .writing _ => none
  | .flushing i =>
      some (file.append child.buffer,
        { child with buffer := [], point := .stepping i }, [])
  | .stepping i =>
      if (i + 1 : Nat) ≤ INT_MAX then
        some (file, { child with point := .testing (i + 1) }, [])
      else none
  | .unlocking =>
      some ({ file with lock := none }, { child with point := .closing },
        [.released child.pid])
  | .closing =>
      some (file.append child.buffer,
        { child with buffer := [], point := .zombie }, [])
  | .zombie | .reaped => none

/-- `fwrite`, after which the stream passes on the first `early` bytes. -/
def writeStep (early : Nat) (file : OutputFile) (child : Child) :
    Option (OutputFile × Child × List Event) :=
  match child.point with
  | .writing i =>
      let pending := child.buffer ++ message child.pid
      some (file.append (pending.take early),
        { child with buffer := pending.drop early, point := .flushing i }, [])
  | _ => none

/-- The parent, apart from `fork` and a `wait` that finds somebody.  Nobody else
is there yet while it waits for `rm`. -/
def parentStep (N : Nat) (state : State) : Option (State × List Event) :=
  let parent := state.parent
  match parent.point with
  | .removing =>
      match state.file.content with
      | some _ =>
          some ({ state with
            file := { state.file with content := none }
            parent := { parent with point := .spawning 0 } }, [])
      | none =>
          some ({ state with parent := { parent with point := .returned 1 } },
            [])
  | .spawning i =>
      if i < N then none
      else some ({ state with parent := { parent with point := .waiting 0 } }, [])
  | .waiting i =>
      if i < N then
        if state.AllReaped then
          some ({ state with
            parent := { parent with point := .waiting (i + 1) } }, [])
        else none
      else some ({ state with parent := { parent with point := .printing } }, [])
  | .printing =>
      some ({ state with parent := { parent with point := .returned 0 } },
        [.printed parent.pid])
  | .returned _ => none

/-- `fork` with the number the system chooses. -/
def forkStep (N : Nat) (pid : Int) (state : State) :
    Option (State × List Event) :=
  match state.parent.point with
  | .spawning i =>
      if i < N ∧ 0 < pid ∧ pid ≤ INT_MAX ∧ state.Unused pid then
        some ({ state with
          parent := { state.parent with point := .spawning (i + 1) }
          children := state.children ++
            [{ pid, buffer := [], point := .executing }] }, [])
      else none
  | _ => none

/-- `wait(NULL)` finds that the child at `index` has exited. -/
def waitStep (N : Nat) (index : Nat) (state : State) :
    Option (State × List Event) :=
  match state.parent.point, state.children[index]? with
  | .waiting i, some child =>
      if i < N ∧ child.point = .zombie then
        some ({ state with
          parent := { state.parent with point := .waiting (i + 1) }
          children := state.children.set index { child with point := .reaped } },
          [])
      else none
  | _, _ => none

/-- One child makes a move. -/
def State.moveChild (state : State) (index : Nat)
    (move : Child → Option (OutputFile × Child × List Event)) :
    Option (State × List Event) :=
  (moveAt state.children index move).map fun (file, children, events) =>
    ({ state with file, children }, events)

def step (N M : Nat) (state : State) : Action → Option (State × List Event)
  | .parent => parentStep N state
  | .fork pid => forkStep N pid state
  | .wait index => waitStep N index state
  | .child index => state.moveChild index (childStep M state.file index)
  | .write index early => state.moveChild index (writeStep early state.file)

/-- `old` is what `output.txt` had in it, if it was there. -/
def initial (pid : Int) (old : Option Bytes) : State where
  file := { content := old, lock := none }
  parent := { pid, point := .removing }
  children := []

def zad3 (N M : Nat) (pid : Int) (old : Option Bytes) :
    Machine State Action Event where
  start := initial pid old
  step := step N M

end SysOp.Lab1.Zad3
