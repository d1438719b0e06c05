import SysOp.Foundation.Machine
import SysOp.Foundation.Mutex
import SysOp.Lab6.Buffer

/-!
# The robot's state and its log

`robot_state_thread` writes the fields of `current_robot_state` one after
another under `state_mutex`; `logger_thread` copies them under the same mutex
and writes the copy to the log.  The three levels differ only in the counters
`robot_state_thread` increments behind its critical section.

A step accesses one field.  Level two's counter has a mutex of its own, held for
a single increment, which is one step here.
-/

namespace SysOp.Lab6

open SysOp.Foundation

inductive Level where
  | one
  | two
  | three
  deriving DecidableEq

/-- Level two has a `stats_` counter for each thing it counts, level three a
`total_` and a `recent_` one. -/
inductive CounterName where
  | stats
  | total
  | recent
  deriving DecidableEq

/-- What a completed update is counted in. -/
def Level.counters : Level → List CounterName
  | .one => []
  | .two => [.stats]
  | .three => [.total, .recent]

structure RobotState where
  x : Rat
  y : Rat
  theta : Rat
  timestamp : Timespec
  deriving DecidableEq

inductive RobotPoint where
  | checking
  | locking
  | writingX
  | writingY
  | writingTheta
  | writingTimestamp
  | unlocking
  | counting (rest : List CounterName)
  | exited
  deriving DecidableEq

/-- The local variables of `robot_state_thread`. -/
structure Robot where
  x : Rat
  y : Rat
  theta : Rat
  point : RobotPoint

/-- The local `state` holds the fields copied so far. -/
inductive LoggerPoint where
  | opening
  | checking
  | locking
  | copyingX
  | copyingY (x : Rat)
  | copyingTheta (x y : Rat)
  | copyingTimestamp (x y theta : Rat)
  | unlocking (state : RobotState)
  | writing (state : RobotState)
  | exited
  deriving DecidableEq

inductive OdometryThread where
  | robot
  | logger
  deriving DecidableEq

structure Odometry where
  currentRobotState : RobotState
  stateMutex : Mutex OdometryThread
  robot : Robot
  logger : LoggerPoint

inductive OdometryEvent where
  | updated
  | counted (counter : CounterName)
  | logged (x y theta : Rat)
  deriving DecidableEq

namespace Odometry

/-- `robot_state_thread`; sleeping until the next period takes no step. -/
def robotStep (level : Level) (isRunning : Bool) (timestamp : Timespec)
    (odometry : Odometry) : Option (Odometry × List OdometryEvent) :=
  let robot := odometry.robot
  let current := odometry.currentRobotState
  let goTo (odometry : Odometry) (point : RobotPoint) :=
    some ({ odometry with robot := { robot with point } }, [])
  match robot.point with
  | .checking =>
      if isRunning then
        some ({ odometry with
          robot :=
            { x := robot.x + 0.01
              y := robot.y + 0.01
              theta := robot.theta + 0.005
              point := .locking } }, [])
      else goTo odometry .exited
  | .locking =>
      if odometry.stateMutex = none then
        goTo { odometry with stateMutex := some .robot } .writingX
      else none
  | .writingX =>
      goTo { odometry with currentRobotState := { current with x := robot.x } }
        .writingY
  | .writingY =>
      goTo { odometry with currentRobotState := { current with y := robot.y } }
        .writingTheta
  | .writingTheta =>
      goTo
        { odometry with
          currentRobotState := { current with theta := robot.theta } }
        .writingTimestamp
  | .writingTimestamp =>
      goTo { odometry with currentRobotState := { current with timestamp } }
        .unlocking
  | .unlocking =>
      some ({ odometry with
        stateMutex := none
        robot := { robot with point := .counting level.counters } }, [.updated])
  | .counting (counter :: rest) =>
      some ({ odometry with robot := { robot with point := .counting rest } },
        [.counted counter])
  | .counting [] => goTo odometry .checking
  | .exited => none

/-- `logger_thread`; `opens` is whether the log file can be opened. -/
def loggerStep (isRunning opens : Bool) (odometry : Odometry) :
    Option (Odometry × List OdometryEvent) :=
  let current := odometry.currentRobotState
  let goTo (odometry : Odometry) (logger : LoggerPoint) :=
    some ({ odometry with logger }, [])
  match odometry.logger with
  | .opening => goTo odometry (if opens then .checking else .exited)
  | .checking => goTo odometry (if isRunning then .locking else .exited)
  | .locking =>
      if odometry.stateMutex = none then
        goTo { odometry with stateMutex := some .logger } .copyingX
      else none
  | .copyingX => goTo odometry (.copyingY current.x)
  | .copyingY x => goTo odometry (.copyingTheta x current.y)
  | .copyingTheta x y => goTo odometry (.copyingTimestamp x y current.theta)
  | .copyingTimestamp x y theta =>
      goTo odometry (.unlocking ⟨x, y, theta, current.timestamp⟩)
  | .unlocking state => goTo { odometry with stateMutex := none } (.writing state)
  | .writing state =>
      some ({ odometry with logger := .checking },
        [.logged state.x state.y state.theta])
  | .exited => none

/-- Static memory is zero. -/
def initial : Odometry where
  currentRobotState := ⟨0, 0, 0, ⟨0, 0⟩⟩
  stateMutex := none
  robot := ⟨0, 0, 0, .checking⟩
  logger := .opening

inductive RobotMove (level : Level) (isRunning : Bool) (odometry : Odometry) :
    Odometry → List OdometryEvent → Prop where
  | begin (here : odometry.robot.point = .checking)
      (running : isRunning = true) :
      RobotMove level isRunning odometry
        { odometry with
          robot :=
            { x := odometry.robot.x + 0.01
              y := odometry.robot.y + 0.01
              theta := odometry.robot.theta + 0.005
              point := .locking } } []
  | leave (here : odometry.robot.point = .checking)
      (stopped : isRunning = false) :
      RobotMove level isRunning odometry
        { odometry with robot := { odometry.robot with point := .exited } } []
  | lock (here : odometry.robot.point = .locking)
      (free : odometry.stateMutex = none) :
      RobotMove level isRunning odometry
        { odometry with
          stateMutex := some .robot
          robot := { odometry.robot with point := .writingX } } []
  | writeX (here : odometry.robot.point = .writingX) :
      RobotMove level isRunning odometry
        { odometry with
          currentRobotState :=
            { odometry.currentRobotState with x := odometry.robot.x }
          robot := { odometry.robot with point := .writingY } } []
  | writeY (here : odometry.robot.point = .writingY) :
      RobotMove level isRunning odometry
        { odometry with
          currentRobotState :=
            { odometry.currentRobotState with y := odometry.robot.y }
          robot := { odometry.robot with point := .writingTheta } } []
  | writeTheta (here : odometry.robot.point = .writingTheta) :
      RobotMove level isRunning odometry
        { odometry with
          currentRobotState :=
            { odometry.currentRobotState with theta := odometry.robot.theta }
          robot := { odometry.robot with point := .writingTimestamp } } []
  | writeTimestamp {timestamp : Timespec}
      (here : odometry.robot.point = .writingTimestamp) :
      RobotMove level isRunning odometry
        { odometry with
          currentRobotState := { odometry.currentRobotState with timestamp }
          robot := { odometry.robot with point := .unlocking } } []
  | unlock (here : odometry.robot.point = .unlocking) :
      RobotMove level isRunning odometry
        { odometry with
          stateMutex := none
          robot := { odometry.robot with point := .counting level.counters } }
        [.updated]
  | count {counter : CounterName} {rest : List CounterName}
      (here : odometry.robot.point = .counting (counter :: rest)) :
      RobotMove level isRunning odometry
        { odometry with
          robot := { odometry.robot with point := .counting rest } }
        [.counted counter]
  | rest (here : odometry.robot.point = .counting []) :
      RobotMove level isRunning odometry
        { odometry with robot := { odometry.robot with point := .checking } } []

inductive LoggerMove (odometry : Odometry) :
    Odometry → List OdometryEvent → Prop where
  | wander {logger : LoggerPoint}
      (here : odometry.logger = .opening ∨ odometry.logger = .checking)
      (there : logger = .checking ∨ logger = .locking ∨ logger = .exited) :
      LoggerMove odometry { odometry with logger } []
  | lock (here : odometry.logger = .locking)
      (free : odometry.stateMutex = none) :
      LoggerMove odometry
        { odometry with stateMutex := some .logger, logger := .copyingX } []
  | copyX (here : odometry.logger = .copyingX) :
      LoggerMove odometry
        { odometry with logger := .copyingY odometry.currentRobotState.x } []
  | copyY {x : Rat} (here : odometry.logger = .copyingY x) :
      LoggerMove odometry
        { odometry with
          logger := .copyingTheta x odometry.currentRobotState.y } []
  | copyTheta {x y : Rat} (here : odometry.logger = .copyingTheta x y) :
      LoggerMove odometry
        { odometry with
          logger := .copyingTimestamp x y odometry.currentRobotState.theta } []
  | copyTimestamp {x y theta : Rat}
      (here : odometry.logger = .copyingTimestamp x y theta) :
      LoggerMove odometry
        { odometry with
          logger := .unlocking
            ⟨x, y, theta, odometry.currentRobotState.timestamp⟩ } []
  | unlock {state : RobotState} (here : odometry.logger = .unlocking state) :
      LoggerMove odometry
        { odometry with stateMutex := none, logger := .writing state } []
  | write {state : RobotState} (here : odometry.logger = .writing state) :
      LoggerMove odometry { odometry with logger := .checking }
        [.logged state.x state.y state.theta]

section Steps

variable {odometry next : Odometry} {events : List OdometryEvent}
  {isRunning : Bool}

theorem robotStep_move {level : Level} {timestamp : Timespec}
    (taken : robotStep level isRunning timestamp odometry =
      some (next, events)) :
    RobotMove level isRunning odometry next events := by
  simp only [robotStep] at taken
  split at taken
  case h_1 here =>
    split at taken
    case isTrue running =>
      cases taken
      exact .begin here running
    case isFalse stopped =>
      cases taken
      exact .leave here (by simpa using stopped)
  case h_2 here =>
    split at taken
    case isTrue free =>
      cases taken
      exact .lock here free
    case isFalse => cases taken
  case h_3 here =>
    cases taken
    exact .writeX here
  case h_4 here =>
    cases taken
    exact .writeY here
  case h_5 here =>
    cases taken
    exact .writeTheta here
  case h_6 here =>
    cases taken
    exact .writeTimestamp here
  case h_7 here =>
    cases taken
    exact .unlock here
  case h_8 counter rest here =>
    cases taken
    exact .count here
  case h_9 here =>
    cases taken
    exact .rest here
  case h_10 => cases taken

theorem loggerStep_move {opens : Bool}
    (taken : loggerStep isRunning opens odometry = some (next, events)) :
    LoggerMove odometry next events := by
  simp only [loggerStep] at taken
  split at taken
  case h_1 here =>
    cases opens <;> cases taken <;> exact .wander (.inl here) (by simp)
  case h_2 here =>
    cases isRunning <;> cases taken <;> exact .wander (.inr here) (by simp)
  case h_3 here =>
    split at taken
    case isTrue free =>
      cases taken
      exact .lock here free
    case isFalse => cases taken
  case h_4 here =>
    cases taken
    exact .copyX here
  case h_5 x here =>
    cases taken
    exact .copyY here
  case h_6 x y here =>
    cases taken
    exact .copyTheta here
  case h_7 x y theta here =>
    cases taken
    exact .copyTimestamp here
  case h_8 state here =>
    cases taken
    exact .unlock here
  case h_9 state here =>
    cases taken
    exact .write here
  case h_10 => cases taken

end Steps

end Odometry

end SysOp.Lab6
