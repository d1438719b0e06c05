import SysOp.Lab6.Moves

/-!
# Shutdown

`handle_sigint` broadcasts without taking the mutex of the buffer.  A thread
that has tested the wait condition but is not asleep yet does not hear the
broadcast, and nobody may be left to wake it.
-/

namespace SysOp.Lab6

open SysOp.Foundation

/-- Past the test of the wait condition and not woken. -/
def Blocked (wait : Option Wait) : Prop :=
  wait = some .deciding ∨ wait = some .asleep

/-- The order of the four broadcasts. -/
def turn : Stage → Side → Nat
  | .cam, .left => 0
  | .cam, .right => 1
  | .sync, .left => 2
  | .sync, .right => 3

def Handler.hasBroadcast (handler : Handler) (stage : Stage) (side : Side) :
    Prop :=
  match handler with
  | .ready => False
  | .broadcasting nextStage nextSide => turn stage side < turn nextStage nextSide
  | .finished => True

/-- The broadcast on a buffer has left its reader behind. -/
def State.Missed (state : State) : Prop :=
  ∃ stage side, state.handler.hasBroadcast stage side ∧
    Blocked (state.waitOn stage side)

/-- The handler has returned, and a thread is asleep that only threads which
have exited could wake. -/
def State.Stuck (state : State) : Prop :=
  state.handler = .finished ∧ state.isRunning = false ∧
    (((∃ side, state.sync.waitOn side = some .asleep) ∧
        ∀ side, (state.cameras.get side).point = .exited) ∨
      ((∃ side, state.writer.waitOn side = some .asleep) ∧
        state.sync = .exited))

/-- No broadcast falls between the test of its reader and the sleep. -/
def Heard (state : State) : Action → Prop
  | .handler =>
      match state.handler with
      | .broadcasting stage side => state.waitOn stage side ≠ some .deciding
      | _ => True
  | _ => True

instance (state : State) (action : Action) : Decidable (Heard state action) := by
  unfold Heard
  split
  · split <;> infer_instance
  · infer_instance

theorem State.Stuck.missed {state : State} (stuck : state.Stuck) :
    state.Missed := by
  obtain ⟨finished, _, ⟨⟨side, asleep⟩, _⟩ | ⟨⟨side, asleep⟩, _⟩⟩ := stuck
  · exact ⟨.cam, side, by simp [Handler.hasBroadcast, finished], .inr asleep⟩
  · exact ⟨.sync, side, by simp [Handler.hasBroadcast, finished], .inr asleep⟩

section Readers

variable {Work : Type} {reader after : Reader Work}

theorem Reader.waitOn_wake (reader : Reader Work) (side other : Side) :
    (reader.wake side).waitOn other =
      if other = side ∧ reader.waitOn side = some .asleep then some .entering
      else reader.waitOn other := by
  cases reader with
  | poppingLeft wait | poppingRight first wait =>
      cases wait <;> cases side <;> cases other <;> rfl
  | checking | working | exited =>
      cases side <;> cases other <;> rfl

theorem Reader.blocked_of_wake {side other : Side}
    (blocked : Blocked ((reader.wake side).waitOn other)) :
    Blocked (reader.waitOn other) := by
  rw [waitOn_wake] at blocked
  split at blocked
  case isTrue => simp [Blocked] at blocked
  case isFalse => exact blocked

/-- Only a reader that has seen `is_running` set starts to wait. -/
theorem ReadMove.blocked {stage : Stage} {work : Frame → Frame → Work}
    {isRunning : Bool} {bufs next : Sides FrameBuffer} {events : List Event}
    {side : Side}
    (move : ReadMove stage work isRunning bufs reader next after events)
    (blocked : Blocked (after.waitOn side)) :
    Blocked (reader.waitOn side) ∨ isRunning = true := by
  cases move with
  | begin running => exact .inr running
  | waitLeft empty running => exact .inr running
  | waitRight empty running => exact .inr running
  | sleepLeft | sleepRight =>
      left
      cases side <;> simp_all [Blocked, Reader.waitOn]
  | leave | abortLeft | popLeft | abortRight | popRight =>
      cases side <;> simp [Blocked, Reader.waitOn] at blocked

end Readers

section Steps

variable {state next : State} {action : Action} {events : List Event}

theorem State.waitOn_wake (state : State) (stage other : Stage)
    (side otherSide : Side) :
    (state.wake stage side).waitOn other otherSide =
      if other = stage ∧ otherSide = side ∧
          state.waitOn stage side = some .asleep then some .entering
      else state.waitOn other otherSide := by
  cases stage <;> cases other <;>
    simp [State.wake, State.waitOn, Reader.waitOn_wake]

theorem State.blocked_of_wake {state : State} {stage other : Stage}
    {side otherSide : Side}
    (blocked : Blocked ((state.wake stage side).waitOn other otherSide)) :
    Blocked (state.waitOn other otherSide) := by
  rw [waitOn_wake] at blocked
  split at blocked
  case isTrue => simp [Blocked] at blocked
  case isFalse => exact blocked

/-- Outside the handler only a thread that sees `is_running` set comes to
wait. -/
theorem Move.blocked (move : Move state action next events)
    (outside : action ≠ .handler) {stage : Stage} {side : Side}
    (blocked : Blocked (next.waitOn stage side)) :
    Blocked (state.waitOn stage side) ∨ state.isRunning = true := by
  cases move with
  | create | stop => exact .inl blocked
  | shoot =>
      cases stage with
      | cam => exact .inl (Reader.blocked_of_wake blocked)
      | sync => exact .inl blocked
  | forwardLeft =>
      cases stage with
      | cam => simp [Blocked, State.waitOn, Reader.waitOn] at blocked
      | sync =>
          have woken : Blocked ((state.writer.wake .left).waitOn side) := blocked
          exact .inl (Reader.blocked_of_wake woken)
  | forwardRight =>
      cases stage with
      | cam => simp [Blocked, State.waitOn, Reader.waitOn] at blocked
      | sync =>
          have woken : Blocked ((state.writer.wake .right).waitOn side) :=
            blocked
          exact .inl (Reader.blocked_of_wake woken)
  | syncRead moved =>
      cases stage with
      | cam => exact moved.blocked blocked
      | sync => exact .inl blocked
  | pair | discard =>
      cases stage with
      | cam => simp [Blocked, State.waitOn, Reader.waitOn] at blocked
      | sync => exact .inl blocked
  | writerRead moved =>
      cases stage with
      | cam => exact .inl blocked
      | sync => exact moved.blocked blocked
  | save =>
      cases stage with
      | cam => exact .inl blocked
      | sync => simp [Blocked, State.waitOn, Reader.waitOn] at blocked
  | interrupt | broadcast => exact absurd rfl outside
  | spurious => exact .inl (State.blocked_of_wake blocked)

/-- The handler and the flag belong to the handler. -/
theorem Move.handler (move : Move state action next events)
    (outside : action ≠ .handler) :
    next.handler = state.handler ∧ next.isRunning = state.isRunning := by
  cases move with
  | interrupt | broadcast => exact absurd rfl outside
  | @spurious stage => cases stage <;> exact ⟨rfl, rfl⟩
  | _ => exact ⟨rfl, rfl⟩

/-- The handler clears the flag before its first broadcast. -/
def State.Announced (state : State) : Prop :=
  state.handler = .ready ∨ state.isRunning = false

theorem State.wake_isRunning (state : State) (stage : Stage) (side : Side) :
    (state.wake stage side).isRunning = state.isRunning := by
  cases stage <;> rfl

theorem Move.announced (move : Move state action next events)
    (announced : state.Announced) : next.Announced := by
  by_cases inside : action = .handler
  · subst inside
    cases move with
    | interrupt here => exact .inr rfl
    | @broadcast stage side here =>
        right
        rcases announced with ready | stopped
        · simp [here] at ready
        · exact (state.wake_isRunning stage side).trans stopped
  · obtain ⟨handler, isRunning⟩ := move.handler inside
    simpa [State.Announced, handler, isRunning] using announced

theorem Handler.hasBroadcast_after (stage other : Stage)
    (side otherSide : Side) :
    (Handler.after stage side).hasBroadcast other otherSide ↔
      (Handler.broadcasting stage side).hasBroadcast other otherSide ∨
        (other = stage ∧ otherSide = side) := by
  cases stage <;> cases side <;> cases other <;> cases otherSide <;>
    simp [Handler.after, Handler.hasBroadcast, turn]

theorem Move.missed_iff (move : Move state action next events)
    (announced : state.Announced) (sound : ¬ state.Missed) :
    next.Missed ↔ ¬ Heard state action := by
  by_cases inside : action = .handler
  · subst inside
    cases move with
    | interrupt here =>
        have heard : Heard state .handler := by simp [Heard, here]
        simp only [heard, not_true_eq_false, iff_false]
        rintro ⟨stage, side, before, _⟩
        cases stage <;> cases side <;>
          simp [Handler.hasBroadcast, turn] at before
    | @broadcast stage side here =>
        simp only [Heard, here, ne_eq, not_not]
        constructor
        · rintro ⟨other, otherSide, before, blocked⟩
          have woken : Blocked
            ((state.wake stage side).waitOn other otherSide) := blocked
          rcases (Handler.hasBroadcast_after ..).mp before with earlier |
            ⟨rfl, rfl⟩
          · rw [← here] at earlier
            exact absurd ⟨other, otherSide, earlier,
              State.blocked_of_wake woken⟩ sound
          · rw [State.waitOn_wake] at woken
            by_cases asleep : state.waitOn other otherSide = some .asleep
            · simp [asleep, Blocked] at woken
            · simpa [asleep, Blocked] using woken
        · intro deciding
          refine ⟨stage, side,
            (Handler.hasBroadcast_after ..).mpr (.inr ⟨rfl, rfl⟩), .inl ?_⟩
          have same := state.waitOn_wake stage stage side side
          have deaf : (state.wake stage side).waitOn stage side =
              some .deciding := by
            rw [same, deciding]
            simp
          exact deaf
  · have heard : Heard state action := by
      unfold Heard
      split
      · exact absurd rfl inside
      · trivial
    simp only [heard, not_true_eq_false, iff_false]
    rintro ⟨stage, side, before, blocked⟩
    obtain ⟨handler, _⟩ := move.handler inside
    rw [handler] at before
    rcases move.blocked inside blocked with earlier | running
    · exact sound ⟨stage, side, before, earlier⟩
    · rcases announced with ready | stopped
      · simp [ready, Handler.hasBroadcast] at before
      · simp [stopped] at running

end Steps

section Runs

variable {trace : List Event} {state : State}

theorem heard_run_sound
    (run : pipeline.RunWithin Heard initial trace state) :
    state.Announced ∧ ¬ state.Missed := by
  refine run.invariant (fun reached => reached.Announced ∧ ¬ reached.Missed)
    ?_ ?_
  · refine ⟨.inl rfl, ?_⟩
    rintro ⟨stage, side, before, _⟩
    exact before
  · rintro reached action next events ⟨announced, sound⟩ heard taken
    have move := step_move taken
    refine ⟨move.announced announced, ?_⟩
    rw [move.missed_iff announced sound]
    exact not_not_intro heard

/-- As long as every broadcast is heard nobody is left asleep; the first one
that falls between a test and its sleep leaves its reader behind. -/
theorem shutdown_heard_iff
    (run : pipeline.RunWithin Heard initial trace state) :
    ¬ state.Stuck ∧ ∀ action next events,
      step state action = some (next, events) →
        (next.Missed ↔ ¬ Heard state action) := by
  obtain ⟨announced, sound⟩ := heard_run_sound run
  refine ⟨fun stuck => sound stuck.missed, ?_⟩
  intro action next events taken
  exact (step_move taken).missed_iff announced sound

end Runs

/-- The handler runs while `sync_thread` is asleep, and everybody exits. -/
def heardSchedule : List Action :=
  List.replicate 3 .sync ++ List.replicate 5 .handler ++
    [.camera .left ⟨0, 0⟩, .camera .right ⟨0, 0⟩, .sync, .writer]

/-- The state it leads to, with the trace. -/
def heard : State × List Event :=
  (pipeline.execute Heard initial heardSchedule).get (by decide)

theorem shutdown_heard_iff_example :
    ¬ heard.1.Stuck ∧ ∀ action next events,
      step heard.1 action = some (next, events) →
        (next.Missed ↔ ¬ Heard heard.1 action) :=
  shutdown_heard_iff (Machine.execute_get_runWithin _)

/-- The handler runs between the test and the sleep of `sync_thread`. -/
def unheardSchedule : List Action :=
  List.replicate 2 .sync ++ List.replicate 5 .handler ++
    [.sync, .camera .left ⟨0, 0⟩, .camera .right ⟨0, 0⟩]

/-- The state it leads to, with the trace. -/
def unheard : State × List Event :=
  (pipeline.execute (fun _ _ => True) initial unheardSchedule).get (by decide)

theorem sync_left_asleep :
    ∃ (trace : List Event) (state : State),
      pipeline.Run initial trace state ∧ state.Stuck ∧
        state.sync = .poppingLeft .asleep := by
  have run : pipeline.Run initial unheard.2 unheard.1 :=
    Machine.execute_get_runWithin _
  refine ⟨_, _, run, ⟨rfl, rfl, .inl ⟨⟨.left, rfl⟩, ?_⟩⟩, rfl⟩
  intro side
  cases side <;> rfl

end SysOp.Lab6
