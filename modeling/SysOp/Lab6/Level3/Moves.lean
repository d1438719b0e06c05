import SysOp.Lab6.Level3.System

/-!
# What a step of level three can be

The inversion of `step`; the pipeline and the odometry have theirs already.
-/

namespace SysOp.Lab6.Level3

open SysOp.Foundation

inductive Move (state : State) : State → List Event → Prop where
  | pipeline {action : Lab6.Action} {pipeline : Lab6.State}
      {events : List Lab6.Event}
      (elsewhere : ∀ side timestamp, action ≠ .camera side timestamp)
      (moved : Lab6.Move state.pipeline action pipeline events) :
      Move state { state with pipeline } (events.map .pipeline)
  | shoot {side : Side} {timestamp : Timespec} {pipeline : Lab6.State}
      {events : List Lab6.Event} (here : state.phases.get side = .shooting)
      (moved : Lab6.Move state.pipeline (.camera side timestamp) pipeline
        events) :
      Move state
        ({ state with pipeline }.setPhase side
          (if (state.pipeline.cameras.get side).point.isPushing then
            .addingTotal else .shooting))
        (events.map .pipeline)
  | addTotal {side : Side} (here : state.phases.get side = .addingTotal) :
      Move state
        ((state.setGauge (.camera side)
          ((state.gauges (.camera side)).add .total)).setPhase side
            .addingRecent)
        [.added (.camera side) .total]
  | addRecent {side : Side} (here : state.phases.get side = .addingRecent) :
      Move state
        ((state.setGauge (.camera side)
          ((state.gauges (.camera side)).add .recent)).setPhase side .shooting)
        [.added (.camera side) .recent]
  | robot {odometry : Odometry} {events : List OdometryEvent}
      (moved : Odometry.RobotMove .three state.isRunning state.odometry
        odometry events)
      (uncounted : ∀ counter, events ≠ [.counted counter]) :
      Move state { state with odometry } (events.map .odometry)
  | count {odometry : Odometry} {counter : CounterName}
      (moved : Odometry.RobotMove .three state.isRunning state.odometry
        odometry [.counted counter]) :
      Move state
        ({ state with odometry }.setGauge .robot
          ((state.gauges .robot).add counter))
        [.added .robot counter]
  | logger {odometry : Odometry} {events : List OdometryEvent}
      (moved : Odometry.LoggerMove state.odometry odometry events) :
      Move state { state with odometry } (events.map .odometry)
  | exchange {source : Source} {watchdog : WatchdogPoint} :
      Move state
        { state.setGauge source (state.gauges source).reset with watchdog }
        [.exchanged source (state.gauges source).recent]
  | watch {watchdog : WatchdogPoint} {events : List Event}
      (warning : ∀ event ∈ events, ∃ source value,
        event = .slow source value) :
      Move state { state with watchdog } events
  | wait {main : MainPoint} : Move state { state with main } []
  | report (joined : state.joined) :
      Move state { state with main := .returned }
        [.reported (state.gauges (.camera .left)).total
          (state.gauges (.camera .right)).total (state.gauges .robot).total]

section Steps

variable {state next : State} {events : List Event}

theorem warnings_slow {left right states : Int} :
    ∀ event ∈ warnings left right states, ∃ source value,
      event = .slow source value := by
  intro event membership
  simp only [warnings, List.mem_append] at membership
  rcases membership with (first | second) | third
  · split at first
    · exact ⟨_, _, List.mem_singleton.mp first⟩
    · cases first
  · split at second
    · exact ⟨_, _, List.mem_singleton.mp second⟩
    · cases second
  · split at third
    · exact ⟨_, _, List.mem_singleton.mp third⟩
    · cases third

theorem cameraStep_move {side : Side} {timestamp : Timespec}
    (taken : cameraStep side timestamp state = some (next, events)) :
    Move state next events := by
  simp only [cameraStep] at taken
  split at taken
  case h_1 here =>
    simp only [Option.map_eq_some_iff, Prod.exists, Prod.mk.injEq] at taken
    obtain ⟨pipeline, _, moved, rfl, rfl⟩ := taken
    exact .shoot here (Lab6.step_move moved)
  case h_2 here =>
    cases taken
    exact .addTotal here
  case h_3 here =>
    cases taken
    exact .addRecent here

theorem pipelineStep_move {action : Lab6.Action}
    (taken : pipelineStep state action = some (next, events)) :
    Move state next events := by
  cases action with
  | camera side timestamp => exact cameraStep_move taken
  | sync | writer | handler | spurious =>
      simp only [pipelineStep, Option.map_eq_some_iff, Prod.exists,
        Prod.mk.injEq] at taken
      obtain ⟨pipeline, _, moved, rfl, rfl⟩ := taken
      exact .pipeline (fun _ _ same => by cases same) (Lab6.step_move moved)

theorem robotStep_move {timestamp : Timespec}
    (taken : robotStep timestamp state = some (next, events)) :
    Move state next events := by
  unfold robotStep at taken
  split at taken
  case h_1 odometry counter moved =>
    cases taken
    exact .count (Odometry.robotStep_move moved)
  case h_2 odometry emitted other moved =>
    cases taken
    refine .robot (Odometry.robotStep_move moved) ?_
    intro counter same
    exact other counter same
  case h_3 => cases taken

theorem watchdogStep_move (taken : watchdogStep state = some (next, events)) :
    Move state next events := by
  unfold watchdogStep at taken
  split at taken
  case h_1 | h_2 =>
    cases taken
    exact .watch (fun _ none => by cases none)
  case h_3 | h_4 | h_5 =>
    cases taken
    exact .exchange
  case h_6 =>
    cases taken
    exact .watch warnings_slow
  case h_7 => cases taken

theorem mainStep_move {opens : Bool}
    (taken : mainStep opens state = some (next, events)) :
    Move state next events := by
  unfold mainStep at taken
  split at taken
  case h_1 =>
    split at taken <;> cases taken <;> exact .wait
  case h_2 =>
    split at taken
    case isTrue joined =>
      cases opens with
      | true =>
          cases taken
          exact .report joined
      | false =>
          cases taken
          exact .wait
    case isFalse => cases taken
  case h_3 => cases taken

theorem step_move {action : Action}
    (taken : step state action = some (next, events)) :
    Move state next events := by
  cases action with
  | pipeline action => exact pipelineStep_move taken
  | robot timestamp => exact robotStep_move taken
  | logger opens =>
      simp only [step, Option.map_eq_some_iff, Prod.exists,
        Prod.mk.injEq] at taken
      obtain ⟨odometry, _, moved, rfl, rfl⟩ := taken
      exact .logger (Odometry.loggerStep_move moved)
  | watchdog => exact watchdogStep_move taken
  | main opens => exact mainStep_move taken

end Steps

end SysOp.Lab6.Level3
