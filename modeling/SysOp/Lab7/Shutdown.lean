import SysOp.Foundation.Inevitable
import SysOp.Lab7.Moves

/-!
# Shutdown of the server

Once `keep_running` is cleared, the next test ends the loop, so all depends on
whether `accept4` comes first.  It does only if the signal is delivered after a
test and before the call: the call is not in progress, so it does not fail, and
waits for one more client.
-/

namespace SysOp.Lab7

open SysOp.Foundation

def Point.outside : Point → Bool
  | .cleaningUp | .returned => true
  | _ => false

/-- `keep_running` is tested before anybody could be accepted. -/
structure State.Departing (state : State) : Prop where
  stopped : state.keepRunning = false
  refuses : state.point.accepts = false

section Moves

variable {conversion : IntConversion} {state next : State} {action : Action}
  {events : List Event}

theorem Move.departing (move : Move conversion state action next events)
    (departing : state.Departing) :
    next.Departing ∧ ∀ client, .accepted client ∉ events := by
  obtain ⟨stopped, refuses⟩ := departing
  cases move with
  | test here =>
      refine ⟨⟨stopped, ?_⟩, fun _ => List.not_mem_nil⟩
      simp [State.goTo, stopped, Point.accepts]
  | accept here => exact absurd here (by simp [refuses])
  | awaitAccept here =>
      rw [here] at refuses
      cases refuses
  | acceptFailed | recv | awaitRecv | disconnected =>
      exact ⟨⟨stopped, rfl⟩, fun _ => List.not_mem_nil⟩
  | answer | close | cleanUp =>
      exact ⟨⟨stopped, rfl⟩, fun _ => by simp⟩
  | connect | send =>
      exact ⟨⟨stopped, refuses⟩, fun _ => List.not_mem_nil⟩
  | fail failed =>
      exact ⟨⟨stopped, Point.accepts_failed failed⟩,
        fun _ => List.not_mem_nil⟩
  | interrupt =>
      refine ⟨⟨rfl, Point.accepts_interrupted_iff.mpr ?_⟩, fun _ => by simp⟩
      intro here
      rw [here] at refuses
      cases refuses

/-- What there is to `recv` has arrived. -/
def State.Supplied (state : State) : Prop :=
  ∀ {client}, state.point.receives = some client → state.arrived client ≠ none

theorem Move.supplied (move : Move conversion state action next events)
    (departing : state.Departing) (supplied : state.Supplied) :
    next.Supplied := by
  intro client receives
  cases move with
  | test here => simp [State.goTo, departing.stopped, Point.receives] at receives
  | accept here => exact absurd here (by simp [departing.refuses])
  | awaitRecv here silent =>
      exact absurd silent (supplied (by rw [here]; rfl))
  | awaitAccept | acceptFailed | recv | disconnected | answer | close
  | cleanUp => cases receives
  | connect =>
      have here := supplied receives
      have inside : client < state.clients.length := by
        by_contra outside
        exact here (by simp [State.arrived, not_lt.mp outside])
      simpa [State.arrived, List.getElem?_append_left inside] using here
  | send silent =>
      have here := supplied receives
      rw [State.arrived] at here ⊢
      rw [List.getElem?_set]
      split
      case isTrue => split <;> simp_all
      case isFalse => exact here
  | fail failed =>
      cases point : state.point <;> rw [point] at failed <;> cases failed <;>
        cases receives
  | interrupt =>
      have here := Point.receives_interrupted receives
      exact supplied (by rw [here]; rfl)

/-- The steps to the end of the loop, of which one may be the client's. -/
def State.work (state : State) : Nat :=
  match state.point with
  | .returned | .callingAccept | .waitingAccept => 0
  | .cleaningUp => 1
  | .testing => 2
  | .acceptFailed | .recvFailed _ | .closing _ => 3
  | .received .. => 4
  | .waitingRecv client => if state.arrived client = none then 6 else 5
  | .callingRecv _ => 7

theorem Move.work_server (move : Move conversion state .server next events)
    (departing : state.Departing) : next.work < state.work := by
  obtain ⟨stopped, refuses⟩ := departing
  cases move with
  | test here => simp [State.work, State.goTo, here, stopped]
  | accept here => exact absurd here (by simp [refuses])
  | awaitAccept here =>
      rw [here] at refuses
      cases refuses
  | recv here arrived =>
      cases point : state.point <;> rw [point] at here <;> cases here
      · simp [State.work, State.goTo, point]
      · simp [State.work, State.goTo, point, arrived]
  | @awaitRecv client here silent =>
      have waits : (state.goTo (.waitingRecv client)).work = 6 := if_pos silent
      rw [waits]
      simp [State.work, here]
  | acceptFailed here | disconnected here | answer here | cleanUp here =>
      simp [State.work, State.goTo, here]
  | close here =>
      rcases here with here | here <;> simp [State.work, State.goTo, here]

theorem Move.work_send {client : Nat} {segment : Bytes}
    (move : Move conversion state (.send client segment) next events)
    (here : state.point = .waitingRecv client) : next.work < state.work := by
  cases move with
  | send silent =>
      obtain ⟨inside, unsent⟩ := List.getElem?_eq_some_iff.mp silent
      simp [State.work, here, State.arrived, inside, unsent]

theorem serverStep_isSome (departing : state.Departing)
    (inside : state.point.outside = false)
    (supplied : ∀ {client}, state.point = .waitingRecv client →
      state.arrived client ≠ none) :
    (serverStep conversion state).isSome := by
  have refuses := departing.refuses
  unfold serverStep
  split
  case h_2 here | h_3 here =>
    rw [here] at refuses
    cases refuses
  case h_5 => split <;> rfl
  case h_6 client here =>
    rw [Option.isSome_map, Option.isSome_iff_ne_none]
    exact supplied here
  case h_7 => split <;> rfl
  case h_11 here =>
    rw [here] at inside
    cases inside
  all_goals rfl

end Moves

/-- The server goes on, and a client whose data it waits for may send it. -/
def Unaided (state : State) : Action → Prop
  | .server => True
  | .send client _ => state.point = .waitingRecv client
  | _ => False

/-- Only the server goes on. -/
def Alone (_ : State) (action : Action) : Prop := action = .server

section Leaving

variable {conversion : IntConversion} {state last : State}
  {allowed : State → Action → Prop} {trace : List Event}

theorem run_departing
    (steps : (server conversion).RunWithin allowed state trace last)
    (departing : state.Departing) :
    last.Departing ∧ ∀ client, .accepted client ∉ trace := by
  apply steps.history fun past state =>
    state.Departing ∧ ∀ client, .accepted client ∉ past
  · exact ⟨departing, fun _ => List.not_mem_nil⟩
  · rintro past state action next events ⟨departing, refused⟩ _ taken
    obtain ⟨onward, refuses⟩ := (step_move taken).departing departing
    refine ⟨onward, fun client member => ?_⟩
    rcases List.mem_append.mp member with earlier | here
    · exact refused client earlier
    · exact refuses client here

theorem inevitable_unaided (departing : state.Departing)
    (connected : state.Connected) :
    (server conversion).Inevitable Unaided (fun state => state.point.outside)
      state := by
  apply Machine.inevitable_of_measure
    (fun state => state.Departing ∧ state.Connected) State.work
  · intro state ⟨departing, connected⟩ inside
    by_cases waits : ∃ client, state.point = .waitingRecv client ∧
        state.arrived client = none
    · obtain ⟨client, here, silent⟩ := waits
      have present : client < state.clients.length :=
        (connected.client (by rw [here]; rfl)).trans_le connected.accepted
      have unsent : state.clients[client]? = some none := by
        rw [List.getElem?_eq_getElem present]
        simpa [State.arrived, present] using silent
      exact ⟨.send client [], here, by simp [server, step, unsent]⟩
    · refine ⟨.server, trivial, serverStep_isSome departing ?_ ?_⟩
      · simpa using inside
      · intro client here silent
        exact waits ⟨client, here, silent⟩
  · intro state action next events ⟨departing, connected⟩ permitted taken
    have move := step_move taken
    refine ⟨⟨(move.departing departing).1, move.connected connected⟩, ?_⟩
    cases action with
    | server => exact move.work_server departing
    | send client segment => exact move.work_send permitted
    | connect | fail | sigint => cases permitted
  · exact ⟨departing, connected⟩

theorem inevitable_alone (departing : state.Departing)
    (supplied : state.Supplied) :
    (server conversion).Inevitable Alone (fun state => state.point.outside)
      state := by
  apply Machine.inevitable_of_measure
    (fun state => state.Departing ∧ state.Supplied) State.work
  · intro state ⟨departing, supplied⟩ inside
    refine ⟨.server, rfl, serverStep_isSome departing (by simpa using inside) ?_⟩
    intro client here
    exact supplied (by rw [here]; rfl)
  · rintro state action next events ⟨departing, supplied⟩ rfl taken
    have move : Move conversion state .server next events := step_move taken
    exact ⟨⟨(move.departing departing).1, move.supplied departing supplied⟩,
      move.work_server departing⟩
  · exact ⟨departing, supplied⟩

/-- From here on nobody is accepted, and the loop is left by allowed steps. -/
structure Graceful (conversion : IntConversion)
    (allowed : State → Action → Prop) (state : State) : Prop where
  refuses : ∀ {later last}, (server conversion).Run state later last →
    ∀ client, .accepted client ∉ later
  leaves : ∀ {later last}, (server conversion).Run state later last →
    (server conversion).Inevitable allowed
      (fun state => state.point.outside) last

theorem not_graceful_of_stuck (stuck : ¬ (server conversion).Able allowed last)
    (inside : last.point.outside = false)
    (steps : (server conversion).Run state trace last) :
    ¬ Graceful conversion allowed state := by
  intro graceful
  have outside := (graceful.leaves steps).goal_of_not_able stuck
  rw [inside] at outside
  cases outside

/-- Before the call nobody is known to be there. -/
theorem not_graceful_callingAccept
    (narrow : ∀ {state action}, allowed state action →
      state.point = .waitingAccept → action = .server)
    (here : state.point = .callingAccept) :
    ¬ Graceful conversion allowed state := by
  by_cases waiting : state.Backlog
  · intro graceful
    have taken : (server conversion).step state .server =
        some (state.accept, [.accepted state.accepted]) := by
      simp [server, step, serverStep, here, waiting]
    have steps : (server conversion).Run state _ _ :=
      .tail (.refl state) trivial taken
    exact graceful.refuses steps state.accepted (by simp)
  · have taken : (server conversion).step state .server =
        some (state.goTo .waitingAccept, []) := by
      simp [server, step, serverStep, here, waiting]
    have steps : (server conversion).Run state _ _ :=
      .tail (.refl state) trivial taken
    apply not_graceful_of_stuck _ rfl steps
    rintro ⟨action, permitted, enabled⟩
    obtain rfl := narrow permitted rfl
    have none : (server conversion).step (state.goTo .waitingAccept) .server =
        none := if_neg waiting
    rw [none] at enabled
    cases enabled

theorem not_graceful_callingRecv {client : Nat}
    (here : state.point = .callingRecv client)
    (silent : state.arrived client = none) :
    ¬ Graceful conversion Alone state := by
  have taken : (server conversion).step state .server =
      some (state.goTo (.waitingRecv client), []) := by
    simp [server, step, serverStep, here, silent]
  have steps : (server conversion).Run state _ _ :=
    .tail (.refl state) trivial taken
  apply not_graceful_of_stuck _ rfl steps
  rintro ⟨action, rfl, enabled⟩
  have none : (server conversion).step (state.goTo (.waitingRecv client))
      .server = none := Option.map_eq_none_iff.mpr silent
  rw [none] at enabled
  cases enabled

theorem graceful_unaided (departing : state.Departing)
    (connected : state.Connected) : Graceful conversion Unaided state where
  refuses steps := (run_departing steps departing).2
  leaves steps := inevitable_unaided (run_departing steps departing).1
    (steps.invariant State.Connected connected
      fun connected _ taken => (step_move taken).connected connected)

theorem graceful_alone (departing : state.Departing)
    (supplied : state.Supplied) : Graceful conversion Alone state where
  refuses steps := (run_departing steps departing).2
  leaves steps := by
    have both := steps.invariant
      (fun state => state.Departing ∧ state.Supplied) ⟨departing, supplied⟩
      fun ⟨departing, supplied⟩ _ taken =>
        ⟨((step_move taken).departing departing).1,
          (step_move taken).supplied departing supplied⟩
    exact inevitable_alone both.1 both.2

/-- `SIGINT` is not delivered between a test and the call of `accept4`. -/
def Heeded (state : State) (action : Action) : Prop :=
  action = .sigint → state.point ≠ .callingAccept

instance (state : State) (action : Action) : Decidable (Heeded state action) :=
  inferInstanceAs (Decidable (_ → _))

/-- Nobody is accepted after the signal. -/
def Refusing (trace : List Event) : Prop :=
  trace.Pairwise fun earlier later =>
    earlier = .interrupted → ∀ client, later ≠ .accepted client

/-- What `SIGINT` leaves behind where it is heeded. -/
structure Heeding (past : List Event) (state : State) : Prop where
  refusing : Refusing past
  stopped : .interrupted ∈ past → state.keepRunning = false
  departing : state.keepRunning = false → state.Departing

theorem Move.heeding {action : Action} {next : State} {past events : List Event}
    (move : Move conversion state action next events)
    (heeding : Heeding past state) (heeded : Heeded state action) :
    Heeding (past ++ events) next := by
  have onward (stopped : state.keepRunning = false) :=
    move.departing (heeding.departing stopped)
  refine ⟨?_, ?_, ?_⟩
  · refine List.pairwise_append.mpr ⟨heeding.refusing, ?_, ?_⟩
    · cases move <;> first | exact .nil | exact List.pairwise_singleton ..
    · rintro earlier before later here rfl client rfl
      exact (onward (heeding.stopped before)).2 client here
  · intro interrupted
    rcases List.mem_append.mp interrupted with before | here
    · exact (onward (heeding.stopped before)).1.stopped
    · cases move with
      | interrupt => rfl
      | _ => simp at here
  · intro stopped
    cases move with
    | interrupt =>
        exact ⟨rfl, Point.accepts_interrupted_iff.mpr (heeded rfl)⟩
    | _ => exact (onward stopped).1

theorem run_heeding
    (steps : (server conversion).RunWithin Heeded initial trace last) :
    Heeding trace last :=
  steps.history Heeding ⟨.nil, fun absent => absurd absent List.not_mem_nil, nofun⟩
    fun heeding permitted taken => (step_move taken).heeding heeding permitted

/-- The signal is heeded exactly if it does not come between a test and the
call of `accept4`, and at once exactly if it does not come between `accept4` and
the call of `recv` either while there is nothing to receive. -/
theorem sigint_graceful_iff {next : State} {events : List Event}
    (steps : (server conversion).Run initial trace state)
    (delivered : step conversion state .sigint = some (next, events)) :
    (Graceful conversion Unaided next ↔ state.point ≠ .callingAccept) ∧
      (Graceful conversion Alone next ↔
        state.point ≠ .callingAccept ∧
          ∀ {client}, state.point = .callingRecv client →
            state.arrived client ≠ none) := by
  have connected := (step_move delivered).connected (run_connected steps)
  cases delivered
  have departing (heeded : state.point ≠ .callingAccept) :
      state.interrupt.Departing :=
    ⟨rfl, Point.accepts_interrupted_iff.mpr heeded⟩
  have early {allowed : State → Action → Prop}
      (narrow : ∀ {state action}, allowed state action →
        state.point = .waitingAccept → action = .server)
      (graceful : Graceful conversion allowed state.interrupt) :
      state.point ≠ .callingAccept := by
    intro here
    have there : state.interrupt.point = .callingAccept := by
      simp [State.interrupt, here, Point.interrupted]
    exact not_graceful_callingAccept narrow there graceful
  refine ⟨⟨early ?_, fun heeded => ?_⟩, ⟨fun graceful => ⟨?_, ?_⟩, ?_⟩⟩
  · intro state action unaided here
    cases action with
    | server => rfl
    | send client segment =>
        rw [Unaided, here] at unaided
        cases unaided
    | connect | fail | sigint => cases unaided
  · exact graceful_unaided (departing heeded) connected
  · exact early (fun only _ => only) graceful
  · intro client here silent
    have there : state.interrupt.point = .callingRecv client := by
      simp [State.interrupt, here, Point.interrupted]
    exact not_graceful_callingRecv there silent graceful
  · rintro ⟨heeded, supplied⟩
    apply graceful_alone (departing heeded)
    intro client receives
    exact supplied (Point.receives_interrupted receives)

/-- In every run that heeds `SIGINT` the loop is left without a further client,
and a signal that is not heeded keeps the server waiting for one. -/
theorem shutdown_graceful_iff (conversion : IntConversion) :
    (∀ {trace last},
        (server conversion).RunWithin Heeded initial trace last →
        Refusing trace ∧
          (last.keepRunning = false → Graceful conversion Unaided last)) ∧
      ∀ {trace state next events},
        (server conversion).Run initial trace state →
        step conversion state .sigint = some (next, events) →
        (Graceful conversion Unaided next ↔ state.point ≠ .callingAccept) ∧
          (Graceful conversion Alone next ↔
            state.point ≠ .callingAccept ∧
              ∀ {client}, state.point = .callingRecv client →
                state.arrived client ≠ none) := by
  refine ⟨fun steps => ?_, sigint_graceful_iff⟩
  have heeding := run_heeding steps
  refine ⟨heeding.refusing, fun stopped => ?_⟩
  exact graceful_unaided (heeding.departing stopped) (run_connected steps)

end Leaving

section Runs

/-- `SIGINT` is delivered while the server waits for its first client. -/
private def interruptedAccept : State × List Event :=
  ((server .saturating).execute Heeded initial
    [.server, .server, .sigint]).get (by decide +kernel)

theorem shutdown_graceful_waiting :
    interruptedAccept.1.point = .acceptFailed ∧
      Graceful .saturating Unaided interruptedAccept.1 :=
  ⟨by decide +kernel, ((shutdown_graceful_iff .saturating).1
    (Machine.execute_get_runWithin _)).2
    (by decide +kernel)⟩

/-- `SIGINT` is delivered after the first test, and the server calls
`accept4`. -/
private def interruptedEarly : State × List Event :=
  ((server .saturating).execute (fun _ _ => True) initial
    [.server, .sigint, .server]).get (by decide +kernel)

/-- The next client connects and is accepted. -/
private def acceptedLate : State × List Event :=
  ((server .saturating).execute (fun _ _ => True) interruptedEarly.1
    [.connect, .server]).get (by decide +kernel)

/-- The server waits for a client after the signal, and accepts it. -/
theorem accepted_after_sigint :
    ∃ trace state later last,
      (server .saturating).Run initial trace state ∧
        state.keepRunning = false ∧
        ¬ (server .saturating).Inevitable Unaided
          (fun state => state.point.outside) state ∧
        (server .saturating).Run state later last ∧
        ¬ Refusing (trace ++ later) := by
  refine ⟨interruptedEarly.2, interruptedEarly.1, acceptedLate.2,
    acceptedLate.1, Machine.execute_get_runWithin _,
    by decide +kernel, ?_, Machine.execute_get_runWithin _,
    ?_⟩
  · intro inevitable
    have waiting : interruptedEarly.1.point = .waitingAccept := by
      decide +kernel
    have outside := inevitable.goal_of_not_able ?_
    · rw [waiting] at outside
      cases outside
    · rintro ⟨action, unaided, enabled⟩
      cases action with
      | server => revert enabled; decide +kernel
      | send client segment =>
          rw [Unaided, waiting] at unaided
          cases unaided
      | connect | fail | sigint => cases unaided
  · intro refusing
    have events : interruptedEarly.2 ++ acceptedLate.2 =
        [.interrupted, .accepted 0] := by decide +kernel
    rw [events] at refusing
    simp [Refusing] at refusing

end Runs

end SysOp.Lab7
