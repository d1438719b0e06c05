import SysOp.Lab6.Moves
import SysOp.Lab6.Odometry

/-!
# Level three: the counters and the watchdog

Level three is the pipeline and the odometry with atomic counters on top.  A
camera counts a frame behind its push, `robot_state_thread` an update behind its
critical section, and `watchdog_thread` reads and resets the recent counters.
`main` joins all threads and writes the report.
-/

namespace SysOp.Lab6

/-- The camera is at its `buffer_push`. -/
def CameraPoint.isPushing : CameraPoint → Bool
  | .pushing _ => true
  | .checking | .exited => false

def CameraPoint.hasExited : CameraPoint → Bool
  | .exited => true
  | .checking | .pushing _ => false

def Reader.hasExited {Work : Type} : Reader Work → Bool
  | .exited => true
  | _ => false

namespace Level3

open SysOp.Foundation

abbrev CAMERA_FREQ_HZ : Int := 25

abbrev ROBOT_FREQ_HZ : Int := 100

/-- What the counters count. -/
inductive Source where
  | camera (side : Side)
  | robot
  deriving DecidableEq

/-- The two `atomic_int` counters of a source. -/
structure Gauge where
  total : Int
  recent : Int
  deriving DecidableEq

/-- `atomic_fetch_add` of 1, which wraps around silently. -/
def fetchAdd (value : Int) : Int := (value + 1).bmod (2 ^ 32)

namespace Gauge

def add (gauge : Gauge) : CounterName → Gauge
  | .total => { gauge with total := fetchAdd gauge.total }
  | .recent => { gauge with recent := fetchAdd gauge.recent }
  | .stats => gauge

/-- What `atomic_exchange` with 0 leaves. -/
def reset (gauge : Gauge) : Gauge := { gauge with recent := 0 }

end Gauge

/-- Up to `buffer_push`, or before one of the two increments. -/
inductive CameraPhase where
  | shooting
  | addingTotal
  | addingRecent
  deriving DecidableEq

inductive WatchdogPoint where
  | checking
  | sleeping
  | exchangingLeft
  | exchangingRight (left : Int)
  | exchangingStates (left right : Int)
  | warning (left right states : Int)
  | exited
  deriving DecidableEq

inductive MainPoint where
  | waiting
  | joining
  | returned
  deriving DecidableEq

structure State where
  pipeline : Lab6.State
  odometry : Odometry
  gauges : Source → Gauge
  phases : Sides CameraPhase
  watchdog : WatchdogPoint
  main : MainPoint

inductive Event where
  | pipeline (event : Lab6.Event)
  | odometry (event : OdometryEvent)
  | added (source : Source) (counter : CounterName)
  | exchanged (source : Source) (value : Int)
  | slow (source : Source) (value : Int)
  | reported (left right states : Int)
  deriving DecidableEq

/-- `opens` is whether the file can be opened. -/
inductive Action where
  | pipeline (action : Lab6.Action)
  | robot (timestamp : Timespec)
  | logger (opens : Bool)
  | watchdog
  | main (opens : Bool)

namespace State

def isRunning (state : State) : Bool := state.pipeline.isRunning

def setGauge (state : State) (source : Source) (gauge : Gauge) : State :=
  { state with gauges := Function.update state.gauges source gauge }

def setPhase (state : State) (side : Side) (phase : CameraPhase) : State :=
  { state with phases := state.phases.set side phase }

end State

/-- `left_camera_thread` and `right_camera_thread`. -/
def cameraStep (side : Side) (timestamp : Timespec) (state : State) :
    Option (State × List Event) :=
  let gauge := state.gauges (.camera side)
  match state.phases.get side with
  | .shooting =>
      let point := (state.pipeline.cameras.get side).point
      (Lab6.step state.pipeline (.camera side timestamp)).map
        fun (pipeline, events) =>
          ({ state with pipeline }.setPhase side
              (if point.isPushing then .addingTotal else .shooting),
            events.map .pipeline)
  | .addingTotal =>
      some ((state.setGauge (.camera side) (gauge.add .total)).setPhase side
        .addingRecent, [.added (.camera side) .total])
  | .addingRecent =>
      some ((state.setGauge (.camera side) (gauge.add .recent)).setPhase side
        .shooting, [.added (.camera side) .recent])

def pipelineStep (state : State) : Lab6.Action → Option (State × List Event)
  | .camera side timestamp => cameraStep side timestamp state
  | action =>
      (Lab6.step state.pipeline action).map fun (pipeline, events) =>
        ({ state with pipeline }, events.map .pipeline)

def robotStep (timestamp : Timespec) (state : State) :
    Option (State × List Event) :=
  match state.odometry.robotStep .three state.isRunning timestamp with
  | some (odometry, [.counted counter]) =>
      some ({ state with odometry }.setGauge .robot
          ((state.gauges .robot).add counter),
        [.added .robot counter])
  | some (odometry, events) =>
      some ({ state with odometry }, events.map .odometry)
  | none => none

/-- What is slower than expected, with a small margin. -/
def warnings (left right states : Int) : List Event :=
  (if left < CAMERA_FREQ_HZ - 2 then [.slow (.camera .left) left] else []) ++
    (if right < CAMERA_FREQ_HZ - 2 then [.slow (.camera .right) right]
      else []) ++
    (if states < ROBOT_FREQ_HZ - 5 then [.slow .robot states] else [])

def watchdogStep (state : State) : Option (State × List Event) :=
  let exchange (source : Source) (point : Int → WatchdogPoint) :=
    let gauge := state.gauges source
    some ({ state.setGauge source gauge.reset with
        watchdog := point gauge.recent },
      [.exchanged source gauge.recent])
  match state.watchdog with
  | .checking =>
      some ({ state with
        watchdog := if state.isRunning then .sleeping else .exited }, [])
  | .sleeping =>
      some ({ state with
        watchdog := if state.isRunning then .exchangingLeft else .exited }, [])
  | .exchangingLeft => exchange (.camera .left) .exchangingRight
  | .exchangingRight left => exchange (.camera .right) (.exchangingStates left)
  | .exchangingStates left right => exchange .robot (.warning left right)
  | .warning left right states =>
      some ({ state with watchdog := .checking }, warnings left right states)
  | .exited => none

/-- All seven threads have returned. -/
def State.joined (state : State) : Bool :=
  state.pipeline.cameras.left.point.hasExited &&
    state.pipeline.cameras.right.point.hasExited &&
    state.pipeline.sync.hasExited && state.pipeline.writer.hasExited &&
    decide (state.odometry.robot.point = .exited) &&
    decide (state.odometry.logger = .exited) &&
    decide (state.watchdog = .exited)

/-- `main`; sleeping until the next test takes no step. -/
def mainStep (opens : Bool) (state : State) : Option (State × List Event) :=
  match state.main with
  | .waiting =>
      if state.isRunning then some (state, [])
      else some ({ state with main := .joining }, [])
  | .joining =>
      if state.joined then
        some ({ state with main := .returned },
          if opens then
            [.reported (state.gauges (.camera .left)).total
              (state.gauges (.camera .right)).total
              (state.gauges .robot).total]
          else [])
      else none
  | .returned => none

def step (state : State) : Action → Option (State × List Event)
  | .pipeline action => pipelineStep state action
  | .robot timestamp => robotStep timestamp state
  | .logger opens =>
      (state.odometry.loggerStep state.isRunning opens).map
        fun (odometry, events) =>
          ({ state with odometry }, events.map .odometry)
  | .watchdog => watchdogStep state
  | .main opens => mainStep opens state

def initial : State where
  pipeline := Lab6.initial
  odometry := Odometry.initial
  gauges := fun _ => ⟨0, 0⟩
  phases := ⟨.shooting, .shooting⟩
  watchdog := .checking
  main := .waiting

def level3 : Machine State Action Event where
  start := initial
  step := step

end Level3

end SysOp.Lab6
