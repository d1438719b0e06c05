import SysOp.Lab2.Process

/-!
# What a step of the process can be

The inversion of `step` and `deliver`.
-/

namespace SysOp.Lab2

open SysOp.Foundation

/-- What comes of an undisturbed step of the program itself. -/
inductive MainMove (keeps : Bool) (setup : Setup) (process : Process) :
    Process → List Event → Prop where
  | exec (here : process.point = .executing) :
      MainMove keeps setup process (process.goTo .installing) []
  | install (here : process.point = .installing) :
      MainMove keeps setup process
        { process with
          signals := initializeUsr2Handling process.signals
          point := .testingMode } []
  | testMode (here : process.point = .testingMode) :
      MainMove keeps setup process
        (process.goTo
          (if process.receivedMode = 0 then .callingPause else .settingUp)) []
  | pause (here : process.point = .callingPause) :
      MainMove keeps setup process (process.goTo .pausing) []
  | setUp {signals : Sigs} {events : List Event}
      (here : process.point = .settingUp)
      (settled : setup (UInt8.ofInt process.receivedMode) process.signals =
        (events, some signals)) :
      MainMove keeps setup process
        { process with signals, point := .testing 1 } events
  | refuse {events : List Event} (here : process.point = .settingUp)
      (refused : setup (UInt8.ofInt process.receivedMode) process.signals =
        (events, none)) :
      MainMove keeps setup process (process.goTo (.returned EXIT_FAILURE))
        (events ++ [.exited EXIT_FAILURE])
  | test {i : Nat} (here : process.point = .testing i) (more : i ≤ 20) :
      MainMove keeps setup process (process.goTo (.counting i)) []
  | tested {i : Nat} (here : process.point = .testing i) (done : 20 < i) :
      MainMove keeps setup process (process.goTo .finishing) []
  | count {i : Nat} (here : process.point = .counting i) :
      MainMove keeps setup process (process.goTo (.acting i)) [.counted i]
  | send {i : Nat} (here : process.point = .acting i)
      (due : i = 5 ∨ i = 15) :
      MainMove keeps setup process (process.goTo (.raising i)) [.sending]
  | check (here : process.point = .acting 10)
      (pending : process.signals.pending .SIGUSR1)
      (blocked : process.signals.blocked .SIGUSR1) :
      MainMove keeps setup process (process.goTo (.unblocking 10))
        [.unblocking]
  | pass {i : Nat} (here : process.point = .acting i) (early : i ≠ 5)
      (late : i ≠ 15)
      (nothing : i = 10 → ¬ (process.signals.pending .SIGUSR1 ∧
        process.signals.blocked .SIGUSR1)) :
      MainMove keeps setup process (process.goTo (.sleeping i)) []
  | raise {i : Nat} (here : process.point = .raising i) :
      MainMove keeps setup process
        { process with
          signals := process.signals.generate keeps .SIGUSR1
          point := .sleeping i } []
  | unblock {i : Nat} (here : process.point = .unblocking i) :
      MainMove keeps setup process
        { process with
          signals := sigUnblock .SIGUSR1 process.signals
          point := .sleeping i } []
  | wake {i : Nat} (here : process.point = .sleeping i) :
      MainMove keeps setup process (process.goTo (.testing (i + 1))) []
  | finish (here : process.point = .finishing) :
      MainMove keeps setup process (process.goTo (.returned 0))
        [.finished, .exited 0]

/-- A step of the process, or a delivery of a signal. -/
inductive Move (keeps : Bool) (setup : Setup) (process : Process) :
    Process → List Event → Prop where
  | main {next : Process} {events : List Event} (ready : process.Ready)
      (outside : process.signals.running = [])
      (move : MainMove keeps setup process next events) :
      Move keeps setup process next events
  | handle {frame : Frame Signal Handler} {rest : List (Frame Signal Handler)}
      (alive : process.point.ended = false)
      (inside : process.signals.running = frame :: rest) :
      Move keeps setup process (process.handlerStep frame).1
        (process.handlerStep frame).2
  | terminate {signal : Signal} {signals : Sigs}
      (alive : process.point.ended = false)
      (delivered : process.signals.deliver signal =
        some (signals, .terminated)) :
      Move keeps setup process
        { process with signals, point := .killed signal } [.killed signal]
  | deliver {signal : Signal} {signals : Sigs} {delivery : Delivery Handler}
      (alive : process.point.ended = false)
      (delivered : process.signals.deliver signal = some (signals, delivery))
      (spared : process.signals.disposition signal ≠ .default) :
      Move keeps setup process { process with signals } []

section Inversion

variable {keeps : Bool} {setup : Setup} {process next : Process}
  {events : List Event} {signal : Signal}

theorem mainStep_move
    (taken : process.mainStep keeps setup = some (next, events)) :
    MainMove keeps setup process next events := by
  unfold Process.mainStep at taken
  dsimp only at taken
  split at taken
  case h_1 here => cases taken; exact .exec here
  case h_2 here => cases taken; exact .install here
  case h_3 here => cases taken; exact .testMode here
  case h_4 here => cases taken; exact .pause here
  case h_5 => cases taken
  case h_6 here =>
    split at taken
    next settled => cases taken; exact .setUp here settled
    next refused => cases taken; exact .refuse here refused
  case h_7 i here =>
    cases taken
    split
    next more => exact .test here more
    next done => exact .tested here (Nat.lt_of_not_le done)
  case h_8 here => cases taken; exact .count here
  case h_9 i here =>
    split at taken
    next due => cases taken; exact .send here due
    next undue =>
      obtain ⟨early, late⟩ := not_or.mp undue
      split at taken
      next found =>
        obtain ⟨rfl, pending, blocked⟩ := found
        cases taken
        exact .check here pending blocked
      next unfound =>
        cases taken
        exact .pass here early late fun ten both => unfound ⟨ten, both⟩
  case h_10 here => cases taken; exact .raise here
  case h_11 here => cases taken; exact .unblock here
  case h_12 here => cases taken; exact .wake here
  case h_13 here => cases taken; exact .finish here
  case h_14 | h_15 => cases taken

theorem step_move (taken : process.step keeps setup = some (next, events)) :
    Move keeps setup process next events := by
  unfold Process.step at taken
  split at taken
  next free =>
    obtain ⟨alive, ready⟩ := free
    split at taken
    next frame rest inside =>
      rw [Option.some.injEq] at taken
      rw [show next = (process.handlerStep frame).1 by rw [taken],
        show events = (process.handlerStep frame).2 by rw [taken]]
      exact .handle alive inside
    next outside => exact .main ready outside (mainStep_move taken)
  next => cases taken

theorem deliver_move (taken : process.deliver signal = some (next, events)) :
    Move keeps setup process next events := by
  unfold Process.deliver at taken
  split at taken
  next => cases taken
  next alive =>
    rw [Bool.not_eq_true] at alive
    split at taken
    next delivered => cases taken; exact .terminate alive delivered
    next signals delivery spared delivered =>
      cases taken
      refine .deliver alive delivered fun fatal => ?_
      obtain ⟨_, what⟩ := Signals.deliver_eq_some_iff.mp delivered
      rw [fatal] at what
      exact spared what.2
    next => cases taken

end Inversion

end SysOp.Lab2
