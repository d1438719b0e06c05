import SysOp.Foundation.Machine
import SysOp.Lab2.Setup

/-!
# A parent that tells its child the mode

`main.c` of `zad2` and `zad3`, which execute a `child.c` each.  The parent sends
the mode with `SIGUSR2` a second after `fork`, wherever the child is by then.
-/

namespace SysOp.Lab2

open SysOp.Foundation

inductive Parent where
  | forking
  | sleeping
  | sending
  | killing
  | waiting
  | returned (code : Nat)
  deriving DecidableEq

structure Family where
  parent : Parent
  child : Option Process

/-- `fails` is a call of the parent that fails. -/
inductive Act where
  | parent
  | fails
  | child
  | execlFails
  | deliver (signal : Signal)

/-- The child that `fork` leaves, before `execl`. -/
def Inherited.child (inherited : Inherited) : Process where
  signals := inherited.signals
  receivedMode := 0
  value := 0
  point := .executing

namespace Process

/-- A process that has ended is sent nothing. -/
def sent (keeps : Bool) (process : Process) (signal : Signal) : Process :=
  if process.point.ended then process else process.receive keeps signal

def sigqueue (keeps : Bool) (process : Process) (signal : Signal)
    (mode : UInt8) : Process :=
  { process.sent keeps signal with value := mode.toNat }

/-- `execl` fails. -/
def execlFails (process : Process) : Option (Process × List Event) :=
  if process.point = .executing ∧ process.Ready then
    some (process.goTo (.returned EXIT_FAILURE), [.exited EXIT_FAILURE])
  else none

end Process

namespace Family

def start : Family where
  parent := .forking
  child := none

def childEnded (family : Family) : Bool :=
  family.child.any (·.point.ended)

section Steps

variable (keeps : Bool) (setup : Setup) (mode : UInt8) (inherited : Inherited)

def parentStep (family : Family) : Option Family :=
  match family.parent with
  | .forking => some { parent := .sleeping, child := inherited.child }
  | .sleeping => some { family with parent := .sending }
  | .sending =>
      some {
        parent := .waiting
        child := family.child.map (·.sigqueue keeps .SIGUSR2 mode) }
  | .killing =>
      some {
        parent := .returned EXIT_FAILURE
        child := family.child.map (·.sent keeps .SIGKILL) }
  | .waiting =>
      if family.childEnded then some { family with parent := .returned 0 }
      else none
  | .returned _ => none

def parentFails (family : Family) : Option Family :=
  match family.parent with
  | .forking => some { family with parent := .returned EXIT_FAILURE }
  | .sending => some { family with parent := .killing }
  | _ => none

/-- The child makes a step of its own. -/
def childStep (family : Family)
    (step : Process → Option (Process × List Event)) :
    Option (Family × List Event) :=
  match family.child with
  | none => none
  | some process =>
      (step process).map fun (next, events) =>
        ({ family with child := next }, events)

def step (family : Family) : Act → Option (Family × List Event)
  | .parent => (parentStep keeps mode inherited family).map (·, [])
  | .fails => family.parentFails.map (·, [])
  | .child => family.childStep (·.step keeps setup)
  | .execlFails => family.childStep Process.execlFails
  | .deliver signal => family.childStep (·.deliver signal)

end Steps

end Family

def family (keeps : Bool) (setup : Setup) (mode : UInt8)
    (inherited : Inherited) : Machine Family Act Event where
  start := Family.start
  step := Family.step keeps setup mode inherited

/-- A step of the child, `execl` included. -/
inductive ChildMove (keeps : Bool) (setup : Setup) (process : Process) :
    Process → List Event → Prop where
  | move {next : Process} {events : List Event}
      (move : Move keeps setup process next events) :
      ChildMove keeps setup process next events
  | fail (here : process.point = .executing) (ready : process.Ready) :
      ChildMove keeps setup process (process.goTo (.returned EXIT_FAILURE))
        [.exited EXIT_FAILURE]

inductive FamilyMove (keeps : Bool) (setup : Setup) (mode : UInt8)
    (inherited : Inherited) (family : Family) :
    Family → List Event → Prop where
  | fork (here : family.parent = .forking) :
      FamilyMove keeps setup mode inherited family
        { parent := .sleeping, child := inherited.child } []
  | forkFails (here : family.parent = .forking) :
      FamilyMove keeps setup mode inherited family
        { family with parent := .returned EXIT_FAILURE } []
  | wake (here : family.parent = .sleeping) :
      FamilyMove keeps setup mode inherited family
        { family with parent := .sending } []
  | send (here : family.parent = .sending) :
      FamilyMove keeps setup mode inherited family
        { parent := .waiting
          child := family.child.map (·.sigqueue keeps .SIGUSR2 mode) } []
  | sendFails (here : family.parent = .sending) :
      FamilyMove keeps setup mode inherited family
        { family with parent := .killing } []
  | kill (here : family.parent = .killing) :
      FamilyMove keeps setup mode inherited family
        { parent := .returned EXIT_FAILURE
          child := family.child.map (·.sent keeps .SIGKILL) } []
  | wait {process : Process} (here : family.parent = .waiting)
      (child : family.child = some process) (ended : process.point.ended) :
      FamilyMove keeps setup mode inherited family
        { family with parent := .returned 0 } []
  | child {process next : Process} {events : List Event}
      (child : family.child = some process)
      (move : ChildMove keeps setup process next events) :
      FamilyMove keeps setup mode inherited family
        { family with child := next } events

section Inversion

variable {keeps : Bool} {setup : Setup} {mode : UInt8} {inherited : Inherited}
  {before after : Family} {events : List Event}

theorem Family.parentStep_move
    (taken : before.parentStep keeps mode inherited = some after) :
    FamilyMove keeps setup mode inherited before after [] := by
  unfold Family.parentStep at taken
  split at taken
  case h_1 here => cases taken; exact .fork here
  case h_2 here => cases taken; exact .wake here
  case h_3 here => cases taken; exact .send here
  case h_4 here => cases taken; exact .kill here
  case h_5 here =>
    split at taken
    next ended =>
      cases taken
      obtain ⟨process, child, ended⟩ := (Option.any_eq_true ..).mp ended
      exact .wait here child ended
    next => cases taken
  case h_6 => cases taken

theorem Family.parentFails_move (taken : before.parentFails = some after) :
    FamilyMove keeps setup mode inherited before after [] := by
  unfold Family.parentFails at taken
  split at taken
  case h_1 here => cases taken; exact .forkFails here
  case h_2 here => cases taken; exact .sendFails here
  case h_3 => cases taken

theorem Family.childStep_move
    {step : Process → Option (Process × List Event)}
    (taken : before.childStep step = some (after, events))
    (moves : ∀ {process next events}, step process = some (next, events) →
      ChildMove keeps setup process next events) :
    FamilyMove keeps setup mode inherited before after events := by
  unfold Family.childStep at taken
  split at taken
  next => cases taken
  next process child =>
    obtain ⟨⟨next, emitted⟩, moved, same⟩ := Option.map_eq_some_iff.mp taken
    cases same
    exact .child child (moves moved)

theorem Process.execlFails_move {process next : Process}
    (taken : process.execlFails = some (next, events)) :
    ChildMove keeps setup process next events := by
  unfold Process.execlFails at taken
  split at taken
  next free => cases taken; exact .fail free.1 free.2
  next => cases taken

theorem Family.step_move {act : Act}
    (taken : before.step keeps setup mode inherited act =
      some (after, events)) :
    FamilyMove keeps setup mode inherited before after events := by
  cases act with
  | parent =>
      obtain ⟨family, moved, same⟩ := Option.map_eq_some_iff.mp taken
      cases same
      exact parentStep_move moved
  | fails =>
      obtain ⟨family, moved, same⟩ := Option.map_eq_some_iff.mp taken
      cases same
      exact parentFails_move moved
  | child => exact childStep_move taken fun taken => .move (Lab2.step_move taken)
  | execlFails => exact childStep_move taken Process.execlFails_move
  | deliver signal =>
      exact childStep_move taken fun taken => .move (deliver_move taken)

end Inversion

end SysOp.Lab2
