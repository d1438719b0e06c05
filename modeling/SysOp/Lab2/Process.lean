import SysOp.Foundation.Signals
import SysOp.Foundation.Text
import Mathlib.Data.Fintype.Sets

/-!
# The process that counts to twenty

What `zad1/main.c` and the `child.c` of `zad2` and `zad3` have in common: they
set up what `SIGUSR1` does, count to twenty, and send it to themselves on the
way.  Only the children first wait for `SIGUSR2` to tell them how.

All calls of `sigaction`, `sigprocmask` and `sigpending` succeed here.  A signal
that can be delivered is delivered before the process goes on.
-/

namespace SysOp.Lab2

open SysOp.Foundation

inductive Signal where
  | SIGUSR1
  | SIGUSR2
  | SIGKILL
  deriving DecidableEq

instance : Fintype Signal where
  elems := {.SIGUSR1, .SIGUSR2, .SIGKILL}
  complete := by
    intro signal
    cases signal <;> decide

def Signal.signo : Signal → Nat
  | .SIGUSR1 => 10
  | .SIGUSR2 => 12
  | .SIGKILL => 9

/-- `custom_handler` and `usr2_handler`. -/
inductive Handler where
  | custom
  | usr2
  deriving DecidableEq

abbrev Sigs := Signals Signal Handler

abbrev EXIT_FAILURE : Nat := 1

/-- The first five are what is printed, `handled` by `custom_handler`. -/
inductive Event where
  | counted (i : Nat)
  | sending
  | unblocking
  | finished
  | handled (signal : Signal)
  | complained (text : Bytes)
  | killed (signal : Signal)
  | exited (code : Nat)
  deriving DecidableEq

/-- `msg` of `custom_handler`, which has its stars replaced from the end. -/
def customMessage (signo : Nat) : Bytes :=
  let msg := bytes "Wywołano handler dla sygnału **\n"
  let len := msg.length
  (msg.set (len - 2) (digitByte (signo % 10))).set (len - 3)
    (digitByte (signo / 10))

/-- What is printed. -/
def Event.text : Event → Bytes
  | .counted i => decimal i ++ bytes "\n"
  | .sending => bytes "Wysyłam sygnał USR1\n"
  | .unblocking => bytes "Odblokowuję USR1\n"
  | .finished => bytes "Pętla została wykonana w całości\n"
  | .handled signal => customMessage signal.signo
  | .complained text => text
  | .killed _ | .exited _ => []

/-- The four letters, as they stand for `default`, `mask`, `ignore` and
`handle`. -/
abbrev modeDefault : UInt8 := 100

abbrev modeMask : UInt8 := 109

abbrev modeIgnore : UInt8 := 105

abbrev modeHandle : UInt8 := 104

/-- What `parse_input` prints when it fails. -/
def expected (complaint : String) (program : Bytes) : Bytes :=
  bytes complaint ++ bytes " Expected: " ++ program ++
    bytes " <default|mask|ignore|handle>\n"

/-- `argv` begins with the name of the program; an error exits. -/
def parseInput : List Bytes → Except Bytes UInt8
  | [program, input] =>
      if input = bytes "default" then .ok modeDefault
      else if input = bytes "mask" then .ok modeMask
      else if input = bytes "ignore" then .ok modeIgnore
      else if input = bytes "handle" then .ok modeHandle
      else .error (expected "Invalid mode selected." program)
  | argv =>
      .error (expected "Invalid number of arguments."
        (argv.headD (bytes "(null)")))

def sigDefault (signal : Signal) (signals : Sigs) : Sigs :=
  signals.sigaction signal .default

def sigMask (signal : Signal) (signals : Sigs) : Sigs :=
  signals.block signal

def sigUnblock (signal : Signal) (signals : Sigs) : Sigs :=
  signals.unblock signal

def sigIgnore (signal : Signal) (signals : Sigs) : Sigs :=
  signals.sigaction signal .ignore

def sigHandle (signal : Signal) (signals : Sigs) : Sigs :=
  signals.sigaction signal (.handle .custom)

def initializeUsr2Handling (signals : Sigs) : Sigs :=
  signals.sigaction .SIGUSR2 (.handle .usr2)

/-- What `mode_setup` calls for a letter. -/
def setupFunction (mode : UInt8) : Option (Signal → Sigs → Sigs) :=
  if mode = modeDefault then some sigDefault
  else if mode = modeMask then some sigMask
  else if mode = modeIgnore then some sigIgnore
  else if mode = modeHandle then some sigHandle
  else none

/-- What `mode_setup` prints and leaves; `none` exits. -/
abbrev Setup := UInt8 → Sigs → List Event × Option Sigs

/-- `mode_setup` with its `switch`. -/
def modeSetup (complaint : UInt8 → Bytes) : Setup := fun mode signals =>
  match setupFunction mode with
  | some function => ([], some (function .SIGUSR1 signals))
  | none => ([.complained (complaint mode)], some signals)

/-- `executing` is before `execl`, `callingPause` before `pause` and `pausing`
in it; `testing` is the test of the loop over `i`. -/
inductive Point where
  | executing
  | installing
  | testingMode
  | callingPause
  | pausing
  | settingUp
  | testing (i : Nat)
  | counting (i : Nat)
  | acting (i : Nat)
  | raising (i : Nat)
  | unblocking (i : Nat)
  | sleeping (i : Nat)
  | finishing
  | returned (code : Nat)
  | killed (signal : Signal)
  deriving DecidableEq

def Point.ended : Point → Bool
  | .returned _ | .killed _ => true
  | _ => false

/-- `receivedMode` is `mode` in `zad1`, and `value` is what comes with a pending
`SIGUSR2`. -/
structure Process where
  signals : Sigs
  receivedMode : Int
  value : Int
  point : Point

namespace Process

def goTo (process : Process) (point : Point) : Process :=
  { process with point }

/-- No signal is to be delivered first. -/
def Ready (process : Process) : Prop :=
  ∀ signal, ¬ process.signals.Deliverable signal

instance (process : Process) : Decidable process.Ready :=
  inferInstanceAs (Decidable (∀ signal, ¬ process.signals.Deliverable signal))

/-- When a handler returns, so does `pause`, if no other handler waits for it. -/
def resumed (process : Process) : Point :=
  if process.point = .pausing ∧ process.signals.sigreturn.running = [] then
    .testingMode
  else process.point

/-- The handler does what it does and returns. -/
def handlerStep (process : Process) (frame : Frame Signal Handler) :
    Process × List Event :=
  let returned :=
    { process with
      signals := process.signals.sigreturn, point := process.resumed }
  match frame.handler with
  | .custom => (returned, [.handled frame.signal])
  | .usr2 => ({ returned with receivedMode := process.value }, [])

/-- `setup` is the `mode_setup` of the program. -/
def mainStep (keeps : Bool) (setup : Setup) (process : Process) :
    Option (Process × List Event) :=
  let signals := process.signals
  match process.point with
  | .executing => some (process.goTo .installing, [])
  | .installing =>
      some ({ process with
        signals := initializeUsr2Handling signals, point := .testingMode }, [])
  | .testingMode =>
      some (process.goTo
        (if process.receivedMode = 0 then .callingPause else .settingUp), [])
  | .callingPause => some (process.goTo .pausing, [])
  | .pausing => none
  | .settingUp =>
      match setup (UInt8.ofInt process.receivedMode) signals with
      | (events, some signals) =>
          some ({ process with signals, point := .testing 1 }, events)
      | (events, none) =>
          some (process.goTo (.returned EXIT_FAILURE),
            events ++ [.exited EXIT_FAILURE])
  | .testing i =>
      some (process.goTo (if i ≤ 20 then .counting i else .finishing), [])
  | .counting i => some (process.goTo (.acting i), [.counted i])
  | .acting i =>
      if i = 5 ∨ i = 15 then some (process.goTo (.raising i), [.sending])
      else if i = 10 ∧ signals.pending .SIGUSR1 ∧ signals.blocked .SIGUSR1 then
        some (process.goTo (.unblocking i), [.unblocking])
      else some (process.goTo (.sleeping i), [])
  | .raising i =>
      some ({ process with
        signals := signals.generate keeps .SIGUSR1, point := .sleeping i }, [])
  | .unblocking i =>
      some ({ process with
        signals := sigUnblock .SIGUSR1 signals, point := .sleeping i }, [])
  | .sleeping i => some (process.goTo (.testing (i + 1)), [])
  | .finishing => some (process.goTo (.returned 0), [.finished, .exited 0])
  | .returned _ | .killed _ => none

/-- The process goes on, in a handler if it is in one. -/
def step (keeps : Bool) (setup : Setup) (process : Process) :
    Option (Process × List Event) :=
  if process.point.ended = false ∧ process.Ready then
    match process.signals.running with
    | frame :: _ => some (process.handlerStep frame)
    | [] => process.mainStep keeps setup
  else none

/-- The kernel delivers a signal. -/
def deliver (process : Process) (signal : Signal) :
    Option (Process × List Event) :=
  if process.point.ended then none
  else
    match process.signals.deliver signal with
    | some (signals, .terminated) =>
        some ({ process with signals, point := .killed signal },
          [.killed signal])
    | some (signals, _) => some ({ process with signals }, [])
    | none => none

/-- The process is sent a signal. -/
def receive (keeps : Bool) (process : Process) (signal : Signal) : Process :=
  { process with signals := process.signals.generate keeps signal }

end Process

end SysOp.Lab2
