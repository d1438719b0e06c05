import Mathlib.Data.Rat.Cast.Lemmas
import Mathlib.Tactic.Ring
import SysOp.Lab6.Odometry

/-!
# Snapshots of the robot's state

While `robot_state_thread` writes, the structure holds parts of two updates;
the mutex keeps `logger_thread` from seeing it then.
-/

namespace SysOp.Lab6

open SysOp.Foundation

namespace RobotPoint

/-- The local variables are one update ahead of the last completed one, -/
def ahead : RobotPoint → Nat
  | .locking | .writingX | .writingY | .writingTheta | .writingTimestamp
  | .unlocking => 1
  | _ => 0

/-- and so are the fields written since. -/
def aheadX : RobotPoint → Nat
  | .writingY | .writingTheta | .writingTimestamp | .unlocking => 1
  | _ => 0

def aheadY : RobotPoint → Nat
  | .writingTheta | .writingTimestamp | .unlocking => 1
  | _ => 0

def aheadTheta : RobotPoint → Nat
  | .writingTimestamp | .unlocking => 1
  | _ => 0

def inside : RobotPoint → Bool
  | .writingX | .writingY | .writingTheta | .writingTimestamp | .unlocking =>
      true
  | _ => false

theorem behind_of_outside {point : RobotPoint}
    (outside : point.inside = false) :
    point.aheadX = 0 ∧ point.aheadY = 0 ∧ point.aheadTheta = 0 := by
  cases point <;> simp_all [inside, aheadX, aheadY, aheadTheta]

end RobotPoint

def LoggerPoint.inside : LoggerPoint → Bool
  | .copyingX | .copyingY _ | .copyingTheta _ _ | .copyingTimestamp _ _ _
  | .unlocking _ => true
  | _ => false

/-- The complete copy the logger is about to write. -/
def LoggerPoint.holding : LoggerPoint → Option RobotState
  | .unlocking state | .writing state => some state
  | _ => none

namespace Odometry

structure State where
  isRunning : Bool
  odometry : Odometry

/-- `stop` is whoever clears `is_running`. -/
inductive Action where
  | robot (timestamp : Timespec)
  | logger (opens : Bool)
  | stop

def step (level : Level) (state : State) :
    Action → Option (State × List OdometryEvent)
  | .robot timestamp =>
      (robotStep level state.isRunning timestamp state.odometry).map
        fun (odometry, events) => ({ state with odometry }, events)
  | .logger opens =>
      (loggerStep state.isRunning opens state.odometry).map
        fun (odometry, events) => ({ state with odometry }, events)
  | .stop => some ({ state with isRunning := false }, [])

def system (level : Level) : Machine State Action OdometryEvent where
  start := ⟨true, initial⟩
  step := step level

/-- The state after a number of updates, in exact arithmetic. -/
def pose (updates : Nat) : Rat × Rat × Rat :=
  (updates * 0.01, updates * 0.01, updates * 0.005)

/-- The lines of the log. -/
def logged (trace : List OdometryEvent) : List (Rat × Rat × Rat) :=
  trace.filterMap fun
    | .logged x y theta => some (x, y, theta)
    | _ => none

def inside (odometry : Odometry) : OdometryThread → Bool
  | .robot => odometry.robot.point.inside
  | .logger => odometry.logger.inside

/-- Where the updates have got to. -/
structure Tracks (updates : Nat) (odometry : Odometry) : Prop where
  robot : (odometry.robot.x, odometry.robot.y, odometry.robot.theta) =
    pose (updates + odometry.robot.point.ahead)
  x : odometry.currentRobotState.x =
    (pose (updates + odometry.robot.point.aheadX)).1
  y : odometry.currentRobotState.y =
    (pose (updates + odometry.robot.point.aheadY)).2.1
  theta : odometry.currentRobotState.theta =
    (pose (updates + odometry.robot.point.aheadTheta)).2.2

/-- The fields copied so far are of the last completed update. -/
def Copies (updates : Nat) : LoggerPoint → Prop
  | .copyingY x => x = (pose updates).1
  | .copyingTheta x y => x = (pose updates).1 ∧ y = (pose updates).2.1
  | .copyingTimestamp x y theta => (x, y, theta) = pose updates
  | _ => True

/-- The lines of the log are the updates with these numbers, and a copy that
is not written yet is of no older one. -/
structure Logs (numbers : List Nat) (updates : Nat) (odometry : Odometry)
    (trace : List OdometryEvent) : Prop where
  lines : logged trace = numbers.map pose
  sorted : numbers.Pairwise (· ≤ ·)
  past : ∀ number ∈ numbers, number ≤ updates
  held : ∀ state ∈ odometry.logger.holding, ∃ number ≤ updates,
    (state.x, state.y, state.theta) = pose number ∧
      ∀ earlier ∈ numbers, earlier ≤ number

structure Consistent (trace : List OdometryEvent) (odometry : Odometry) :
    Prop where
  guards : odometry.stateMutex.Guards fun thread => odometry.inside thread
  tracks : Tracks (trace.count .updated) odometry
  copies : Copies (trace.count .updated) odometry.logger
  logs : ∃ numbers, Logs numbers (trace.count .updated) odometry trace

theorem pose_succ (updates : Nat) :
    pose (updates + 1) = ((pose updates).1 + 0.01, (pose updates).2.1 + 0.01,
      (pose updates).2.2 + 0.005) := by
  simp only [pose, Nat.cast_add, Nat.cast_one, Prod.mk.injEq]
  refine ⟨?_, ?_, ?_⟩ <;> ring

section Steps

variable {level : Level} {isRunning : Bool} {odometry next : Odometry}
  {events trace : List OdometryEvent}

theorem RobotMove.guards
    (move : RobotMove level isRunning odometry next events)
    (guards : odometry.stateMutex.Guards fun thread =>
      odometry.inside thread) :
    next.stateMutex.Guards fun thread => next.inside thread := by
  cases move with
  | lock here free =>
      apply guards.lock free
      intro thread
      cases thread <;> simp [Odometry.inside, RobotPoint.inside, here]
  | unlock here =>
      have within : odometry.inside .robot := by
        simp [Odometry.inside, RobotPoint.inside, here]
      apply guards.unlock within
      intro thread
      cases thread <;> simp [Odometry.inside, RobotPoint.inside]
  | begin here | leave here | writeX here | writeY here | writeTheta here
  | writeTimestamp here | count here | rest here =>
      apply guards.keep
      intro thread
      cases thread <;> simp [Odometry.inside, RobotPoint.inside, here]

theorem LoggerMove.guards (move : LoggerMove odometry next events)
    (guards : odometry.stateMutex.Guards fun thread =>
      odometry.inside thread) :
    next.stateMutex.Guards fun thread => next.inside thread := by
  cases move with
  | lock here free =>
      apply guards.lock free
      intro thread
      cases thread <;> simp [Odometry.inside, LoggerPoint.inside, here]
  | unlock here =>
      have within : odometry.inside .logger := by
        simp [Odometry.inside, LoggerPoint.inside, here]
      apply guards.unlock within
      intro thread
      cases thread <;> simp [Odometry.inside, LoggerPoint.inside]
  | wander here there =>
      apply guards.keep
      intro thread
      rcases here with here | here <;> rcases there with rfl | rfl | rfl <;>
        cases thread <;> simp [Odometry.inside, LoggerPoint.inside, here]
  | copyX here | copyY here | copyTheta here | copyTimestamp here
  | write here =>
      apply guards.keep
      intro thread
      cases thread <;> simp [Odometry.inside, LoggerPoint.inside, here]

theorem RobotMove.tracks {updates : Nat}
    (move : RobotMove level isRunning odometry next events)
    (tracks : Tracks updates odometry) :
    Tracks (updates + events.count .updated) next := by
  obtain ⟨robot, x, y, theta⟩ := tracks
  cases move with
  | begin here running =>
      rw [here] at robot x y theta
      refine ⟨?_, x, y, theta⟩
      simp only [RobotPoint.ahead, Nat.add_zero] at robot
      simp only [RobotPoint.ahead, List.count_nil, Nat.add_zero, pose_succ, ← robot]
  | unlock here =>
      rw [here] at robot x y theta
      exact ⟨robot, x, y, theta⟩
  | writeX here =>
      rw [here] at robot x y theta
      exact ⟨robot, congrArg Prod.fst robot, y, theta⟩
  | writeY here =>
      rw [here] at robot x y theta
      exact ⟨robot, x, congrArg (·.2.1) robot, theta⟩
  | writeTheta here =>
      rw [here] at robot x y theta
      exact ⟨robot, x, y, congrArg (·.2.2) robot⟩
  | leave here | lock here | writeTimestamp here | count here | rest here =>
      rw [here] at robot x y theta
      exact ⟨robot, x, y, theta⟩

theorem RobotMove.silent
    (move : RobotMove level isRunning odometry next events) :
    logged events = [] ∧ next.logger = odometry.logger := by
  cases move <;> exact ⟨rfl, rfl⟩

/-- An update is completed only while nobody copies. -/
theorem RobotMove.copies {updates : Nat}
    (move : RobotMove level isRunning odometry next events)
    (guards : odometry.stateMutex.Guards fun thread =>
      odometry.inside thread)
    (copies : Copies updates odometry.logger) :
    Copies (updates + events.count .updated) next.logger := by
  cases move with
  | unlock here =>
      have robot : odometry.inside .robot := by
        simp [Odometry.inside, RobotPoint.inside, here]
      have away : odometry.logger.inside = false := by
        by_contra within
        have logger : odometry.inside .logger := by
          simpa [Odometry.inside] using within
        have same := guards.exclusive robot logger
        cases same
      cases logger : odometry.logger <;>
        simp_all [LoggerPoint.inside, Copies]
  | _ => exact copies

theorem RobotMove.logs {numbers : List Nat} {updates : Nat}
    (move : RobotMove level isRunning odometry next events)
    (logs : Logs numbers updates odometry trace) :
    Logs numbers (updates + events.count .updated) next (trace ++ events) := by
  obtain ⟨quiet, same⟩ := move.silent
  have later : updates ≤ updates + events.count .updated :=
    Nat.le_add_right ..
  refine ⟨?_, logs.sorted, ?_, ?_⟩
  · rw [← logs.lines, logged, List.filterMap_append]
    exact (congrArg _ quiet).trans (List.append_nil _)
  · intro number membership
    exact (logs.past number membership).trans later
  · rw [same]
    intro state holding
    obtain ⟨number, past, complete, newest⟩ := logs.held state holding
    exact ⟨number, past.trans later, complete, newest⟩

theorem RobotMove.consistent
    (move : RobotMove level isRunning odometry next events)
    (consistent : Consistent trace odometry) :
    Consistent (trace ++ events) next := by
  have guards := consistent.guards
  refine ⟨move.guards guards, ?_, ?_, ?_⟩
  · rw [List.count_append]
    exact move.tracks consistent.tracks
  · rw [List.count_append]
    exact move.copies guards consistent.copies
  · obtain ⟨numbers, logs⟩ := consistent.logs
    rw [List.count_append]
    exact ⟨numbers, move.logs logs⟩

/-- While the logger copies, the structure holds one whole update. -/
theorem Tracks.whole {updates : Nat} (tracks : Tracks updates odometry)
    (guards : odometry.stateMutex.Guards fun thread => odometry.inside thread)
    (copying : odometry.logger.inside) :
    (odometry.currentRobotState.x, odometry.currentRobotState.y,
      odometry.currentRobotState.theta) = pose updates := by
  have away : odometry.robot.point.inside = false := by
    by_contra within
    have robot : odometry.inside .robot := by
      simpa [Odometry.inside] using within
    have logger : odometry.inside .logger := copying
    have same := guards.exclusive robot logger
    cases same
  have behind := RobotPoint.behind_of_outside away
  rw [tracks.x, tracks.y, tracks.theta, behind.1, behind.2.1, behind.2.2]
  rfl

theorem LoggerMove.tracks {updates : Nat}
    (move : LoggerMove odometry next events)
    (tracks : Tracks updates odometry) :
    Tracks (updates + events.count .updated) next := by
  obtain ⟨robot, x, y, theta⟩ := tracks
  cases move <;> exact ⟨robot, x, y, theta⟩

theorem LoggerMove.copies {updates : Nat}
    (move : LoggerMove odometry next events)
    (tracks : Tracks updates odometry)
    (guards : odometry.stateMutex.Guards fun thread => odometry.inside thread)
    (copies : Copies updates odometry.logger) :
    Copies (updates + events.count .updated) next.logger := by
  cases move with
  | copyX here =>
      have whole := tracks.whole guards (by rw [here]; rfl)
      exact congrArg Prod.fst whole
  | copyY here =>
      have whole := tracks.whole guards (by rw [here]; rfl)
      rw [here] at copies
      exact ⟨copies, congrArg (·.2.1) whole⟩
  | copyTheta here =>
      have whole := tracks.whole guards (by rw [here]; rfl)
      rw [here] at copies
      rw [copies.1, copies.2]
      exact congrArg (fun theta => (_, _, theta)) (congrArg (·.2.2) whole)
  | wander here there => rcases there with rfl | rfl | rfl <;> trivial
  | _ => trivial

theorem LoggerMove.logs {numbers : List Nat} {updates : Nat}
    (move : LoggerMove odometry next events)
    (copies : Copies updates odometry.logger)
    (logs : Logs numbers updates odometry trace) :
    ∃ numbers, Logs numbers updates next (trace ++ events) := by
  cases move with
  | copyTimestamp here =>
      rw [here] at copies
      refine ⟨numbers, ?_, logs.sorted, logs.past, ?_⟩
      · rw [List.append_nil, logs.lines]
      · intro state holding
        cases holding
        exact ⟨updates, le_refl _, copies, logs.past⟩
  | unlock here =>
      refine ⟨numbers, ?_, logs.sorted, logs.past, ?_⟩
      · rw [List.append_nil, logs.lines]
      · intro state holding
        apply logs.held
        rw [here]
        exact holding
  | @write state here =>
      obtain ⟨number, past, complete, newest⟩ :=
        logs.held state (by rw [here]; rfl)
      refine ⟨numbers ++ [number], ?_, ?_, ?_, ?_⟩
      · rw [List.map_append, ← logs.lines, logged, List.filterMap_append]
        exact congrArg (logged trace ++ [·]) complete
      · rw [List.pairwise_append]
        refine ⟨logs.sorted, List.pairwise_singleton .., ?_⟩
        intro earlier membership last single
        rw [List.mem_singleton.mp single]
        exact newest earlier membership
      · intro earlier membership
        rcases List.mem_append.mp membership with old | new
        · exact logs.past earlier old
        · rw [List.mem_singleton.mp new]
          exact past
      · intro state holding
        cases holding
  | wander here there =>
      refine ⟨numbers, ?_, logs.sorted, logs.past, ?_⟩
      · rw [List.append_nil, logs.lines]
      · intro state holding
        rcases there with rfl | rfl | rfl <;> cases holding
  | lock | copyX | copyY | copyTheta =>
      refine ⟨numbers, ?_, logs.sorted, logs.past, ?_⟩
      · rw [List.append_nil, logs.lines]
      · intro state holding
        cases holding

theorem LoggerMove.consistent (move : LoggerMove odometry next events)
    (consistent : Consistent trace odometry) :
    Consistent (trace ++ events) next := by
  have guards := consistent.guards
  have tracks := consistent.tracks
  obtain ⟨numbers, logs⟩ := consistent.logs
  have quiet : events.count .updated = 0 := by cases move <;> rfl
  refine ⟨move.guards guards, ?_, ?_, ?_⟩
  · rw [List.count_append]
    exact move.tracks tracks
  · rw [List.count_append]
    exact move.copies tracks guards consistent.copies
  · rw [List.count_append, quiet, Nat.add_zero]
    exact move.logs consistent.copies logs

end Steps

section Runs

variable {level : Level} {trace : List OdometryEvent} {last : State}

theorem initial_consistent : Consistent [] initial where
  guards thread := by cases thread <;> decide
  tracks := by constructor <;> decide +kernel
  copies := trivial
  logs := by
    refine ⟨[], rfl, List.Pairwise.nil, ?_, ?_⟩
    · intro number membership
      cases membership
    · intro state holding
      cases holding

theorem run_consistent
    (steps : (system level).Run (system level).start trace last) :
    Consistent trace last.odometry := by
  refine steps.history (fun past state => Consistent past state.odometry)
    initial_consistent ?_
  intro past state action next events consistent _ taken
  cases action with
  | robot timestamp =>
      simp only [system, step, Option.map_eq_some_iff, Prod.exists,
        Prod.mk.injEq] at taken
      obtain ⟨odometry, _, moved, rfl, rfl⟩ := taken
      exact (robotStep_move moved).consistent consistent
  | logger opens =>
      simp only [system, step, Option.map_eq_some_iff, Prod.exists,
        Prod.mk.injEq] at taken
      obtain ⟨odometry, _, moved, rfl, rfl⟩ := taken
      exact (loggerStep_move moved).consistent consistent
  | stop =>
      cases taken
      rw [List.append_nil]
      exact consistent

/-- Every line of the log is the initial state or one complete update, and the
log never goes back. -/
theorem log_consistent
    (steps : (system level).Run (system level).start trace last) :
    ∃ numbers : List Nat, logged trace = numbers.map pose ∧
      numbers.Pairwise (· ≤ ·) ∧
      ∀ number ∈ numbers, number ≤ trace.count .updated := by
  obtain ⟨numbers, logs⟩ := (run_consistent steps).logs
  exact ⟨numbers, logs.lines, logs.sorted, logs.past⟩

/-- The logger runs before and after the first update. -/
private def twoLines : State × List OdometryEvent :=
  ((system .three).execute (fun _ _ => True) (system .three).start
    (List.replicate 9 (.logger true) ++
      List.replicate 7 (.robot ⟨1, 0⟩) ++
      List.replicate 8 (.logger true))).get (by decide +kernel)

theorem log_consistent_twoLines :
    logged twoLines.2 = [pose 0, pose 1] ∧
      ∃ numbers : List Nat, logged twoLines.2 = numbers.map pose ∧
        numbers.Pairwise (· ≤ ·) ∧
        ∀ number ∈ numbers, number ≤ twoLines.2.count .updated :=
  ⟨by decide +kernel,
    log_consistent (Machine.execute_get_runWithin _)⟩

end Runs

end Odometry

end SysOp.Lab6
