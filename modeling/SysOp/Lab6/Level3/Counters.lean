import Mathlib.Algebra.BigOperators.Group.List.Basic
import Mathlib.Data.List.Count
import SysOp.Lab6.Level3.Moves
import SysOp.Lab6.Synchroniser

/-!
# The counters add up

The watchdog resets a recent counter in the same operation that reads it, so
each increment is in exactly one of the values it has read or still in the
counter.
-/

namespace SysOp.Lab6.Level3

open SysOp.Foundation

def pipelineEvents (trace : List Event) : List Lab6.Event :=
  trace.filterMap fun
    | .pipeline event => some event
    | _ => none

/-- What the watchdog has read of a source. -/
def exchanged (source : Source) (trace : List Event) : List Int :=
  trace.filterMap fun
    | .exchanged other value => if other = source then some value else none
    | _ => none

/-- The frames a camera has pushed, or the completed updates. -/
def completions (trace : List Event) : Source → Nat
  | .camera side => (pushed .cam side (pipelineEvents trace)).length
  | .robot => trace.count (.odometry .updated)

/-- Completed and not counted yet. -/
def State.owed (state : State) : Source → Nat
  | .camera side =>
      match state.phases.get side with
      | .addingTotal => 1
      | .shooting | .addingRecent => 0
  | .robot =>
      match state.odometry.robot.point with
      | .counting [.total, .recent] => 1
      | _ => 0

/-- Between the two increments. -/
def State.between (state : State) : Source → Nat
  | .camera side =>
      match state.phases.get side with
      | .addingRecent => 1
      | .shooting | .addingTotal => 0
  | .robot =>
      match state.odometry.robot.point with
      | .counting [.recent] => 1
      | _ => 0

/-- The counters of a source hold what has been added and not read. -/
structure Balanced (trace : List Event) (source : Source) (gauge : Gauge) :
    Prop where
  total : gauge.total = trace.count (.added source .total)
  recent : (exchanged source trace).sum + gauge.recent =
    trace.count (.added source .recent)
  drained : 0 ≤ (exchanged source trace).sum
  left : 0 ≤ gauge.recent

/-- No counter has come to its limit. -/
def Few (trace : List Event) : Prop :=
  ∀ source counter, trace.count (.added source counter) < 2 ^ 31

structure Paced (trace : List Event) (state : State) : Prop where
  completed : ∀ source, completions trace source =
    trace.count (.added source .total) + state.owed source
  added : ∀ source, trace.count (.added source .total) =
    trace.count (.added source .recent) + state.between source
  camera : ∀ side, state.phases.get side ≠ .shooting →
    (state.pipeline.cameras.get side).point = .checking
  robot : ∀ rest, state.odometry.robot.point = .counting rest →
    rest = [.total, .recent] ∨ rest = [.recent] ∨ rest = []

section History

variable {trace events : List Event} {source : Source} {gauge : Gauge}

theorem Few.past (few : Few (trace ++ events)) : Few trace := by
  intro source counter
  have total := few source counter
  rw [List.count_append] at total
  omega

theorem exchanged_append :
    exchanged source (trace ++ events) =
      exchanged source trace ++ exchanged source events :=
  List.filterMap_append

/-- An increment below the limit is exact. -/
theorem fetchAdd_eq {value : Int} (start : 0 ≤ value)
    (below : value + 1 < 2 ^ 31) : fetchAdd value = value + 1 := by
  apply Int.bmod_eq_of_le
  · omega
  · omega

theorem Balanced.addTotal (balanced : Balanced trace source gauge)
    (few : Few (trace ++ [.added source .total])) :
    Balanced (trace ++ [.added source .total]) source (gauge.add .total) := by
  have bound := few source .total
  have total := balanced.total
  have silent : exchanged source (trace ++ [.added source .total]) =
      exchanged source trace := by
    rw [exchanged_append]
    exact List.append_nil _
  simp only [List.count_append, List.count_cons_self, List.count_nil] at bound
  refine ⟨?_, ?_, ?_, balanced.left⟩
  · rw [Gauge.add, fetchAdd_eq (by omega) (by omega), total]
    simp
  · rw [silent]
    simpa [Gauge.add] using balanced.recent
  · rw [silent]
    exact balanced.drained

theorem Balanced.addRecent (balanced : Balanced trace source gauge)
    (few : Few (trace ++ [.added source .recent])) :
    Balanced (trace ++ [.added source .recent]) source
      (gauge.add .recent) := by
  have bound := few source .recent
  obtain ⟨total, recent, drained, left⟩ := balanced
  have silent : exchanged source (trace ++ [.added source .recent]) =
      exchanged source trace := by
    rw [exchanged_append]
    exact List.append_nil _
  simp only [List.count_append, List.count_cons_self, List.count_nil] at bound
  have increment : (gauge.add .recent).recent = gauge.recent + 1 :=
    fetchAdd_eq left (by omega)
  refine ⟨?_, ?_, ?_, ?_⟩
  · simpa [Gauge.add] using total
  · rw [silent, increment, ← add_assoc, recent]
    simp
  · rw [silent]
    exact drained
  · rw [increment]
    omega

/-- What is read is no longer in the counter. -/
theorem Balanced.exchange (balanced : Balanced trace source gauge) :
    Balanced (trace ++ [.exchanged source gauge.recent]) source
      gauge.reset := by
  obtain ⟨total, recent, drained, left⟩ := balanced
  have read : (exchanged source
      (trace ++ [.exchanged source gauge.recent])).sum =
        (exchanged source trace).sum + gauge.recent := by
    rw [exchanged_append, List.sum_append]
    simp [exchanged]
  refine ⟨?_, ?_, ?_, le_refl _⟩
  · simpa [Gauge.reset] using total
  · rw [read, recent]
    simp [Gauge.reset]
  · rw [read]
    exact add_nonneg drained left

/-- The events do not concern the counters of a source. -/
def Untouched (source : Source) (events : List Event) : Prop :=
  (∀ counter, .added source counter ∉ events) ∧ exchanged source events = []

theorem Balanced.other (balanced : Balanced trace source gauge)
    (untouched : Untouched source events) :
    Balanced (trace ++ events) source gauge := by
  obtain ⟨total, recent, drained, left⟩ := balanced
  have uncounted : ∀ counter, (trace ++ events).count (.added source counter) =
      trace.count (.added source counter) := by
    intro counter
    rw [List.count_append, List.count_eq_zero_of_not_mem
      (untouched.1 counter), Nat.add_zero]
  have silent : exchanged source (trace ++ events) = exchanged source trace := by
    rw [exchanged_append, untouched.2, List.append_nil]
  refine ⟨?_, ?_, ?_, left⟩
  · rw [uncounted, total]
  · rw [silent, uncounted, recent]
  · rw [silent]
    exact drained

theorem untouched_pipeline (events : List Lab6.Event) :
    Untouched source (events.map .pipeline) := by
  simp [Untouched, exchanged, List.filterMap_map]

theorem untouched_odometry (events : List OdometryEvent) :
    Untouched source (events.map .odometry) := by
  simp [Untouched, exchanged, List.filterMap_map]

theorem untouched_slow (slow : ∀ event ∈ events, ∃ other value,
    event = .slow other value) : Untouched source events := by
  refine ⟨fun counter membership => ?_, ?_⟩
  · obtain ⟨other, value, same⟩ := slow _ membership
    cases same
  · rw [exchanged, List.filterMap_eq_nil_iff]
    intro event membership
    obtain ⟨other, value, rfl⟩ := slow event membership
    rfl

theorem untouched_added {other : Source} {counter : CounterName}
    (different : source ≠ other) :
    Untouched source [.added other counter] := by
  simp [Untouched, exchanged, different]

theorem untouched_exchanged {other : Source} {value : Int}
    (different : source ≠ other) :
    Untouched source [.exchanged other value] := by
  simp [Untouched, exchanged, Ne.symm different]

end History

section Steps

variable {trace events : List Event} {state next : State}

theorem setGauge_balanced {source : Source} {gauge : Gauge}
    (balanced : ∀ other, Balanced trace other (state.gauges other))
    (changed : Balanced (trace ++ events) source gauge)
    (untouched : ∀ other, other ≠ source → Untouched other events)
    (other : Source) :
    Balanced (trace ++ events) other
      ((state.setGauge source gauge).gauges other) := by
  by_cases same : other = source
  · subst same
    simp only [State.setGauge, Function.update_self]
    exact changed
  · simp only [State.setGauge, Function.update_of_ne same]
    exact (balanced other).other (untouched other same)

theorem robot_counter {odometry after : Odometry} {counter : CounterName}
    {isRunning : Bool}
    (robot : ∀ rest, odometry.robot.point = .counting rest →
      rest = [.total, .recent] ∨ rest = [.recent] ∨ rest = [])
    (moved : Odometry.RobotMove .three isRunning odometry after
      [.counted counter]) :
    (counter = .total ∧ odometry.robot.point = .counting [.total, .recent] ∧
        after.robot.point = .counting [.recent]) ∨
      (counter = .recent ∧ odometry.robot.point = .counting [.recent] ∧
        after.robot.point = .counting []) := by
  cases moved with
  | count here =>
      rcases robot _ here with both | last | none
      · cases both
        exact .inl ⟨rfl, here, rfl⟩
      · cases last
        exact .inr ⟨rfl, here, rfl⟩
      · cases none

theorem Move.balanced (move : Move state next events)
    (balanced : ∀ source, Balanced trace source (state.gauges source))
    (paced : Paced trace state) (few : Few (trace ++ events)) :
    ∀ source, Balanced (trace ++ events) source (next.gauges source) := by
  cases move with
  | pipeline | shoot =>
      exact fun source => (balanced source).other (untouched_pipeline _)
  | robot | logger =>
      exact fun source => (balanced source).other (untouched_odometry _)
  | addTotal =>
      exact setGauge_balanced balanced ((balanced _).addTotal few)
        fun other different => untouched_added different
  | addRecent =>
      exact setGauge_balanced balanced ((balanced _).addRecent few)
        fun other different => untouched_added different
  | count moved =>
      refine setGauge_balanced balanced ?_
        fun other different => untouched_added different
      rcases robot_counter paced.robot moved with
        ⟨rfl, _⟩ | ⟨rfl, _⟩
      · exact (balanced .robot).addTotal few
      · exact (balanced .robot).addRecent few
  | exchange =>
      exact setGauge_balanced balanced (balanced _).exchange
        fun other different => untouched_exchanged different
  | watch warning =>
      exact fun source => (balanced source).other (untouched_slow warning)
  | wait | report =>
      refine fun source => (balanced source).other ?_
      simp [Untouched, exchanged]

/-- Only the cameras move the cameras and fill their buffers. -/
theorem pipeline_elsewhere {pipeline after : Lab6.State}
    {action : Lab6.Action} {emitted : List Lab6.Event}
    (elsewhere : ∀ side timestamp, action ≠ .camera side timestamp)
    (moved : Lab6.Move pipeline action after emitted) (side : Side) :
    after.cameras = pipeline.cameras ∧ pushed .cam side emitted = [] := by
  cases moved with
  | create | stop | shoot => exact absurd rfl (elsewhere _ _)
  | syncRead moved | writerRead moved => exact ⟨rfl, moved.pushed ..⟩
  | forwardLeft | forwardRight => exact ⟨rfl, by simp⟩
  | @broadcast stage | @spurious stage => cases stage <;> exact ⟨rfl, rfl⟩
  | _ => exact ⟨rfl, rfl⟩

/-- A camera that pushes a frame is past its test, any other is before one. -/
theorem pipeline_camera {pipeline after : Lab6.State} {side : Side}
    {timestamp : Timespec} {emitted : List Lab6.Event}
    (moved : Lab6.Move pipeline (.camera side timestamp) after emitted) :
    (∀ other, other ≠ side →
      after.cameras.get other = pipeline.cameras.get other ∧
        pushed .cam other emitted = []) ∧
      (pushed .cam side emitted).length =
        (if (pipeline.cameras.get side).point.isPushing then 1 else 0) ∧
      ((pipeline.cameras.get side).point.isPushing = true →
        (after.cameras.get side).point = .checking) ∧
      (pipeline.cameras.get side).point ≠ .exited := by
  cases moved with
  | create here | stop here =>
      refine ⟨?_, ?_, ?_, ?_⟩
      · intro other different
        simp [different, pushed]
      · simp [here, CameraPoint.isPushing, pushed]
      · simp [here, CameraPoint.isPushing]
      · simp [here]
  | shoot here =>
      refine ⟨?_, ?_, ?_, ?_⟩
      · intro other different
        simp [different, Ne.symm different]
      · simp [here, CameraPoint.isPushing]
      · simp
      · simp [here]

theorem completions_append (earlier later : List Event) (source : Source) :
    completions (earlier ++ later) source =
      completions earlier source + completions later source := by
  cases source <;> simp [completions, pipelineEvents]

theorem completions_pipeline (emitted : List Lab6.Event) (source : Source) :
    completions (emitted.map .pipeline) source =
      match source with
      | .camera side => (pushed .cam side emitted).length
      | .robot => 0 := by
  cases source with
  | camera side => simp [completions, pipelineEvents, List.filterMap_map]
  | robot =>
      apply List.count_eq_zero_of_not_mem
      simp

/-- The balance of one step. -/
theorem Paced.advance (paced : Paced trace state)
    (completed : ∀ source, completions events source + state.owed source =
      events.count (.added source .total) + next.owed source)
    (added : ∀ source,
      events.count (.added source .total) + state.between source =
        events.count (.added source .recent) + next.between source)
    (camera : ∀ side, next.phases.get side ≠ .shooting →
      (next.pipeline.cameras.get side).point = .checking)
    (robot : ∀ rest, next.odometry.robot.point = .counting rest →
      rest = [.total, .recent] ∨ rest = [.recent] ∨ rest = []) :
    Paced (trace ++ events) next where
  completed source := by
    have before := paced.completed source
    have step := completed source
    rw [completions_append, List.count_append]
    omega
  added source := by
    have before := paced.added source
    have step := added source
    rw [List.count_append, List.count_append]
    omega
  camera := camera
  robot := robot

theorem added_pipeline (emitted : List Lab6.Event) (source : Source)
    (counter : CounterName) :
    (emitted.map Event.pipeline).count (.added source counter) = 0 := by
  apply List.count_eq_zero_of_not_mem
  simp

theorem added_odometry (emitted : List OdometryEvent) (source : Source)
    (counter : CounterName) :
    (emitted.map Event.odometry).count (.added source counter) = 0 := by
  apply List.count_eq_zero_of_not_mem
  simp

theorem completions_odometry (emitted : List OdometryEvent)
    (source : Source) :
    completions (emitted.map .odometry) source =
      match source with
      | .camera _ => 0
      | .robot => emitted.count .updated := by
  cases source with
  | camera side =>
      simp [completions, pipelineEvents, List.filterMap_map, pushed]
  | robot =>
      apply List.count_map_of_injective
      intro first second same
      cases same
      rfl

theorem shoot_paced {side : Side} {timestamp : Timespec}
    {pipeline : Lab6.State} {emitted : List Lab6.Event}
    (paced : Paced trace state) (here : state.phases.get side = .shooting)
    (moved : Lab6.Move state.pipeline (.camera side timestamp) pipeline
      emitted) :
    Paced (trace ++ emitted.map .pipeline)
      ({ state with pipeline }.setPhase side
        (if (state.pipeline.cameras.get side).point.isPushing then
          .addingTotal else .shooting)) := by
  obtain ⟨others, self, pushing, _⟩ := pipeline_camera moved
  apply paced.advance
  · intro source
    rw [completions_pipeline, added_pipeline]
    cases source with
    | camera other =>
        by_cases same : other = side
        · subst same
          simp only [State.owed, State.setPhase, Sides.get_set, if_true, self,
            here]
          cases (state.pipeline.cameras.get other).point.isPushing <;> rfl
        · simp [State.owed, State.setPhase, same, (others other same).2]
    | robot => simp only [State.owed, State.setPhase]
  · intro source
    rw [added_pipeline, added_pipeline]
    cases source with
    | camera other =>
        by_cases same : other = side
        · subst same
          simp only [State.between, State.setPhase, Sides.get_set, if_true,
            here]
          cases (state.pipeline.cameras.get other).point.isPushing <;> rfl
        · simp [State.between, State.setPhase, same]
    | robot => simp only [State.between, State.setPhase]
  · intro other
    simp only [State.setPhase, Sides.get_set]
    by_cases same : other = side
    · subst same
      rw [if_pos rfl]
      split
      case isTrue isPushing => exact fun _ => pushing isPushing
      case isFalse => exact fun different => absurd rfl different
    · rw [if_neg same, (others other same).1]
      exact paced.camera other
  · exact paced.robot

/-- A camera counts its frame, first in the total. -/
theorem camera_paced {side : Side} {counter : CounterName}
    {before after : CameraPhase} (paced : Paced trace state)
    (here : state.phases.get side = before)
    (order : (before = .addingTotal ∧ counter = .total ∧
        after = .addingRecent) ∨
      (before = .addingRecent ∧ counter = .recent ∧ after = .shooting))
    (gauge : Gauge) :
    Paced (trace ++ [.added (.camera side) counter])
      ((state.setGauge (.camera side) gauge).setPhase side after) := by
  apply paced.advance
  · intro source
    cases source with
    | camera other =>
        by_cases same : other = side
        · subst same
          rcases order with ⟨rfl, rfl, rfl⟩ | ⟨rfl, rfl, rfl⟩ <;>
            simp [completions, pipelineEvents, pushed, State.owed,
              State.setPhase, State.setGauge, here]
        · simp [completions, pipelineEvents, pushed, State.owed,
            State.setPhase, State.setGauge, same, Ne.symm same]
    | robot => simp [completions, State.owed, State.setPhase, State.setGauge]
  · intro source
    cases source with
    | camera other =>
        by_cases same : other = side
        · subst same
          rcases order with ⟨rfl, rfl, rfl⟩ | ⟨rfl, rfl, rfl⟩ <;>
            simp [State.between, State.setPhase, State.setGauge, here]
        · simp [State.between, State.setPhase, State.setGauge, same,
            Ne.symm same]
    | robot => simp [State.between, State.setPhase, State.setGauge]
  · intro other
    simp only [State.setPhase, State.setGauge, Sides.get_set]
    split
    case isTrue same =>
      intro _
      apply paced.camera other
      rw [same, here]
      rcases order with ⟨rfl, _⟩ | ⟨rfl, _⟩ <;> simp
    case isFalse => exact paced.camera other
  · exact paced.robot

/-- `robot_state_thread` moves on and counts nothing. -/
theorem robot_paced {odometry : Odometry} {emitted : List OdometryEvent}
    (paced : Paced trace state)
    (moved : Odometry.RobotMove .three state.isRunning state.odometry odometry
      emitted)
    (uncounted : ∀ counter, emitted ≠ [.counted counter]) :
    Paced (trace ++ emitted.map .odometry) { state with odometry } := by
  apply paced.advance
  · intro source
    rw [completions_odometry, added_odometry]
    cases source with
    | camera side => simp [State.owed]
    | robot =>
        cases moved with
        | count here => exact absurd rfl (uncounted _)
        | _ here => simp [State.owed, here, Level.counters]
  · intro source
    rw [added_odometry, added_odometry]
    cases source with
    | camera side => simp only [State.between]
    | robot =>
        cases moved with
        | count here => exact absurd rfl (uncounted _)
        | _ here => simp [State.between, here, Level.counters]
  · exact paced.camera
  · intro rest counting
    cases moved with
    | count here => exact absurd rfl (uncounted _)
    | unlock here =>
        cases counting
        exact .inl rfl
    | _ => cases counting

theorem count_paced {odometry : Odometry} {counter : CounterName}
    (paced : Paced trace state)
    (moved : Odometry.RobotMove .three state.isRunning state.odometry odometry
      [.counted counter]) (gauge : Gauge) :
    Paced (trace ++ [.added .robot counter])
      ({ state with odometry }.setGauge .robot gauge) := by
  have which := robot_counter paced.robot moved
  apply paced.advance
  · intro source
    cases source with
    | camera side => simp [completions, pipelineEvents, pushed, State.owed, State.setGauge]
    | robot =>
        rcases which with ⟨rfl, here, there⟩ | ⟨rfl, here, there⟩ <;>
          simp [completions, State.owed, State.setGauge, here, there]
  · intro source
    cases source with
    | camera side => simp [State.between, State.setGauge]
    | robot =>
        rcases which with ⟨rfl, here, there⟩ | ⟨rfl, here, there⟩ <;>
          simp [State.between, State.setGauge, here, there]
  · exact paced.camera
  · intro rest counting
    rcases which with ⟨_, _, there⟩ | ⟨_, _, there⟩
    · rw [State.setGauge, there] at counting
      cases counting
      exact .inr (.inl rfl)
    · rw [State.setGauge, there] at counting
      cases counting
      exact .inr (.inr rfl)

/-- A step that has nothing to do with the counting. -/
theorem Paced.quiet (paced : Paced trace state)
    (completed : ∀ source, completions events source = 0)
    (added : ∀ source counter, events.count (.added source counter) = 0)
    (pipeline : next.pipeline = state.pipeline)
    (phases : next.phases = state.phases)
    (robot : next.odometry.robot = state.odometry.robot) :
    Paced (trace ++ events) next := by
  have owed : next.owed = state.owed := by
    funext source
    simp only [State.owed, phases, robot]
  have between : next.between = state.between := by
    funext source
    simp only [State.between, phases, robot]
  apply paced.advance
  · intro source
    rw [completed, added, owed]
  · intro source
    rw [added, added, between]
  · rw [phases, pipeline]
    exact paced.camera
  · rw [robot]
    exact paced.robot

theorem completions_slow (slow : ∀ event ∈ events, ∃ source value,
    event = .slow source value) (source : Source) :
    completions events source = 0 := by
  cases source with
  | camera side =>
      have none : pipelineEvents events = [] := by
        rw [pipelineEvents, List.filterMap_eq_nil_iff]
        intro event membership
        obtain ⟨source, value, rfl⟩ := slow event membership
        rfl
      rw [completions, none]
      rfl
  | robot =>
      apply List.count_eq_zero_of_not_mem
      intro membership
      obtain ⟨source, value, same⟩ := slow _ membership
      cases same

theorem Move.paced (move : Move state next events)
    (paced : Paced trace state) : Paced (trace ++ events) next := by
  cases move with
  | pipeline elsewhere moved =>
      have kept := pipeline_elsewhere elsewhere moved
      apply paced.advance
      · intro source
        rw [completions_pipeline, added_pipeline]
        cases source with
        | camera side => simp [(kept side).2, State.owed]
        | robot => simp [State.owed]
      · intro source
        rw [added_pipeline, added_pipeline]
        cases source <;> simp [State.between]
      · intro side
        rw [(kept side).1]
        exact paced.camera side
      · exact paced.robot
  | shoot here moved => exact shoot_paced paced here moved
  | addTotal here =>
      exact camera_paced paced here (.inl ⟨rfl, rfl, rfl⟩) _
  | addRecent here =>
      exact camera_paced paced here (.inr ⟨rfl, rfl, rfl⟩) _
  | robot moved uncounted => exact robot_paced paced moved uncounted
  | count moved => exact count_paced paced moved _
  | logger moved =>
      apply paced.quiet
      · intro source
        rw [completions_odometry]
        cases source <;> cases moved <;> rfl
      · exact added_odometry _
      · rfl
      · rfl
      · cases moved <;> rfl
  | exchange =>
      apply paced.quiet
      · intro source
        cases source <;> simp [completions, pipelineEvents, pushed]
      · simp
      all_goals rfl
  | watch warning =>
      apply paced.quiet
      · exact completions_slow warning
      · intro source counter
        exact List.count_eq_zero_of_not_mem ((untouched_slow warning).1 counter)
      all_goals rfl
  | wait =>
      apply paced.quiet
      · intro source
        cases source <;> rfl
      · simp
      all_goals rfl
  | report joined =>
      apply paced.quiet
      · intro source
        cases source <;> simp [completions, pipelineEvents, pushed]
      · simp
      all_goals rfl

/-- The counting threads have returned. -/
structure State.Idle (state : State) : Prop where
  camera : ∀ side, (state.pipeline.cameras.get side).point = .exited
  robot : state.odometry.robot.point = .exited

theorem idle_of_joined (joined : state.joined) : state.Idle := by
  simp only [State.joined, Bool.and_eq_true, decide_eq_true_eq] at joined
  obtain ⟨⟨⟨⟨⟨⟨left, right⟩, _⟩, _⟩, robot⟩, _⟩, _⟩ := joined
  refine ⟨fun side => ?_, robot⟩
  cases side with
  | left =>
      cases here : state.pipeline.cameras.left.point with
      | exited => exact here
      | _ => simp [here, CameraPoint.hasExited] at left
  | right =>
      cases here : state.pipeline.cameras.right.point with
      | exited => exact here
      | _ => simp [here, CameraPoint.hasExited] at right

/-- The report says what the counters say, and they stay as they are. -/
def Reported (trace : List Event) (state : State) : Prop :=
  ∀ left right states, .reported left right states ∈ trace →
    state.Idle ∧ left = (state.gauges (.camera .left)).total ∧
      right = (state.gauges (.camera .right)).total ∧
      states = (state.gauges .robot).total

theorem RobotMove.not_idle {level : Level} {isRunning : Bool}
    {odometry after : Odometry} {emitted : List OdometryEvent}
    (moved : Odometry.RobotMove level isRunning odometry after emitted) :
    odometry.robot.point ≠ .exited := by
  cases moved with
  | _ here => simp [here]

/-- Nobody counts any more. -/
theorem Move.idle (move : Move state next events) (paced : Paced trace state)
    (idle : state.Idle) :
    next.Idle ∧ ∀ source,
      (next.gauges source).total = (state.gauges source).total := by
  obtain ⟨camera, robot⟩ := idle
  cases move with
  | pipeline elsewhere moved =>
      refine ⟨⟨fun side => ?_, robot⟩, fun _ => rfl⟩
      rw [(pipeline_elsewhere elsewhere moved side).1]
      exact camera side
  | @shoot side _ _ _ here moved =>
      exact absurd (camera side) (pipeline_camera moved).2.2.2
  | @addTotal side here | @addRecent side here =>
      have checking := paced.camera side (by rw [here]; simp)
      rw [camera side] at checking
      cases checking
  | robot moved | count moved => exact absurd robot (RobotMove.not_idle moved)
  | logger moved =>
      refine ⟨⟨camera, ?_⟩, fun _ => rfl⟩
      cases moved <;> exact robot
  | @exchange source watchdog =>
      refine ⟨⟨camera, robot⟩, fun other => ?_⟩
      by_cases same : other = source
      · subst same
        simp [State.setGauge, Gauge.reset]
      · simp [State.setGauge, same]
  | watch | wait | report => exact ⟨⟨camera, robot⟩, fun _ => rfl⟩

theorem Move.reported (move : Move state next events)
    (paced : Paced trace state) (reported : Reported trace state) :
    Reported (trace ++ events) next := by
  intro left right states membership
  rcases List.mem_append.mp membership with old | new
  · obtain ⟨idle, rfl, rfl, rfl⟩ := reported left right states old
    obtain ⟨after, same⟩ := move.idle paced idle
    exact ⟨after, (same _).symm, (same _).symm, (same _).symm⟩
  · cases move with
    | report joined =>
        cases List.mem_singleton.mp new
        have idle := idle_of_joined joined
        exact ⟨⟨idle.camera, idle.robot⟩, rfl, rfl, rfl⟩
    | watch warning =>
        obtain ⟨source, value, same⟩ := warning _ new
        cases same
    | _ => simp at new

end Steps

section Runs

variable {trace : List Event} {last : State}

theorem initial_paced : Paced [] initial where
  completed source := by cases source with
    | camera side => cases side <;> rfl
    | robot => rfl
  added source := by cases source with
    | camera side => cases side <;> rfl
    | robot => rfl
  camera side different := by cases side <;> exact absurd rfl different
  robot rest counting := by cases counting

theorem run_paced (steps : level3.Run level3.start trace last) :
    Paced trace last :=
  steps.history Paced initial_paced
    fun paced _ taken => (step_move taken).paced paced

theorem run_reported (steps : level3.Run level3.start trace last) :
    Reported trace last := by
  have invariant : Paced trace last ∧ Reported trace last :=
    steps.history (fun past state => Paced past state ∧ Reported past state)
      ⟨initial_paced, fun _ _ _ membership => by cases membership⟩
      fun ⟨paced, reported⟩ _ taken =>
        ⟨(step_move taken).paced paced, (step_move taken).reported paced reported⟩
  exact invariant.2

theorem run_balanced (steps : level3.Run level3.start trace last)
    (few : Few trace) (source : Source) :
    Balanced trace source (last.gauges source) := by
  have invariant : Paced trace last ∧ (Few trace →
      ∀ source, Balanced trace source (last.gauges source)) := by
    refine steps.history (fun past state => Paced past state ∧ (Few past →
      ∀ source, Balanced past source (state.gauges source)))
      ⟨initial_paced, fun _ source => ⟨rfl, rfl, le_refl _, le_refl _⟩⟩ ?_
    rintro past state action next events ⟨paced, balanced⟩ _ taken
    have move := step_move taken
    exact ⟨move.paced paced, fun few =>
      move.balanced (balanced few.past) paced few⟩
  exact invariant.2 few source

/-- Every increment is read once or still in the counter, the totals count what
is completed, and so does the report. -/
theorem counters_conserved (steps : level3.Run level3.start trace last)
    (few : Few trace) :
    (∀ source, (last.gauges source).total =
        (exchanged source trace).sum + (last.gauges source).recent +
          last.between source) ∧
      (∀ source, (last.gauges source).total =
        completions trace source - last.owed source) ∧
      ∀ {left right states : Int}, .reported left right states ∈ trace →
        left = completions trace (.camera .left) ∧
          right = completions trace (.camera .right) ∧
          states = completions trace .robot := by
  have paced := run_paced steps
  have balanced := run_balanced steps few
  have totals : ∀ source, (last.gauges source).total =
      completions trace source - last.owed source := by
    intro source
    have completed := paced.completed source
    rw [(balanced source).total]
    omega
  refine ⟨?_, totals, ?_⟩
  · intro source
    have added := paced.added source
    rw [(balanced source).total, (balanced source).recent]
    exact_mod_cast added
  · intro left right states reported
    obtain ⟨idle, rfl, rfl, rfl⟩ :=
      run_reported steps left right states reported
    have settled : ∀ source, last.owed source = 0 := by
      intro source
      cases source with
      | camera side =>
          have shooting : last.phases.get side = .shooting := by
            by_contra different
            have checking := paced.camera side different
            rw [idle.camera side] at checking
            cases checking
          simp [State.owed, shooting]
      | robot => simp [State.owed, idle.robot]
    refine ⟨?_, ?_, ?_⟩ <;> rw [totals, settled] <;> simp

/-- One frame is counted, the watchdog reads it, and the program ends. -/
private def oneFrameSchedule : List Action :=
  List.flatten [
    List.replicate 4 (.pipeline (.camera .left ⟨0, 0⟩)),
    List.replicate 3 .watchdog, List.replicate 5 (.pipeline .handler),
    [.pipeline (.camera .left ⟨0, 0⟩), .pipeline (.camera .right ⟨0, 0⟩),
      .pipeline .sync, .pipeline .writer, .robot ⟨0, 0⟩, .logger true,
      .logger true],
    List.replicate 4 .watchdog, [.main true, .main true]]

private theorem oneFrame_executes :
    (level3.execute (fun _ _ => True) initial oneFrameSchedule).isSome := by
  decide +kernel

private def oneFrame : State × List Event :=
  (level3.execute (fun _ _ => True) initial oneFrameSchedule).get
    oneFrame_executes

theorem counters_conserved_oneFrame :
    exchanged (.camera .left) oneFrame.2 = [1] ∧
      .reported 1 0 0 ∈ oneFrame.2 ∧
      (1 : Int) = completions oneFrame.2 (.camera .left) := by
  have reported : .reported 1 0 0 ∈ oneFrame.2 := by decide +kernel
  have few : Few oneFrame.2 := by
    intro source counter
    exact lt_of_le_of_lt List.count_le_length (by decide +kernel)
  have conserved := counters_conserved
    (Machine.execute_get_runWithin oneFrame_executes) few
  exact ⟨by decide +kernel, reported, (conserved.2.2 reported).1⟩

end Runs

end SysOp.Lab6.Level3
