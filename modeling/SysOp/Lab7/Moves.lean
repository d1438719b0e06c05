import SysOp.Lab7.Loop

/-!
# What a step of the server can be

The inversion of `step`, and who is connected.
-/

namespace SysOp.Lab7

open SysOp.Foundation

/-- The client whose connection is open. -/
def Point.client : Point → Option Nat
  | .callingRecv client | .waitingRecv client | .recvFailed client
  | .received client _ | .closing client => some client
  | _ => none

/-- `accept4` comes before the next test. -/
def Point.accepts : Point → Bool
  | .callingAccept | .waitingAccept => true
  | _ => false

/-- `recv` has not returned yet. -/
def Point.receives : Point → Option Nat
  | .callingRecv client | .waitingRecv client => some client
  | _ => none

namespace Point

variable {point failure : Point}

theorem client_of_receives {client : Nat}
    (receives : point.receives = some client) : point.client = some client := by
  cases point <;> first | exact receives | cases receives

theorem client_failed (failed : point.failed = some failure) :
    failure.client = point.client := by
  cases point <;> cases failed <;> rfl

theorem accepts_failed (failed : point.failed = some failure) :
    failure.accepts = false := by
  cases point <;> cases failed <;> rfl

theorem client_interrupted (point : Point) :
    point.interrupted.client = point.client := by
  cases point <;> rfl

theorem accepts_interrupted_iff :
    point.interrupted.accepts = false ↔ point ≠ .callingAccept := by
  cases point <;> simp [interrupted, accepts]

theorem receives_interrupted {client : Nat}
    (receives : point.interrupted.receives = some client) :
    point = .callingRecv client := by
  cases point <;> cases receives
  rfl

end Point

section Moves

variable {conversion : IntConversion} {state next : State} {action : Action}
  {events : List Event}

inductive Move (conversion : IntConversion) (state : State) :
    Action → State → List Event → Prop where
  | test (here : state.point = .testing) :
      Move conversion state .server
        (state.goTo (if state.keepRunning then .callingAccept else .cleaningUp))
        []
  | accept (here : state.point.accepts) (waiting : state.Backlog) :
      Move conversion state .server state.accept [.accepted state.accepted]
  | awaitAccept (here : state.point = .callingAccept)
      (nobody : ¬ state.Backlog) :
      Move conversion state .server (state.goTo .waitingAccept) []
  | acceptFailed (here : state.point = .acceptFailed) :
      Move conversion state .server (state.goTo .testing) []
  | recv {client : Nat} {segment : Bytes}
      (here : state.point.receives = some client)
      (arrived : state.arrived client = some segment) :
      Move conversion state .server
        (state.goTo (.received client (recv (BUFFER_SIZE - 1) segment))) []
  | awaitRecv {client : Nat} (here : state.point = .callingRecv client)
      (silent : state.arrived client = none) :
      Move conversion state .server (state.goTo (.waitingRecv client)) []
  | disconnected {client : Nat} (here : state.point = .received client []) :
      Move conversion state .server (state.goTo (.closing client)) []
  | answer {client : Nat} {rxBuffer : Bytes}
      {answered : Option (Int × Option Bytes)}
      (here : state.point = .received client rxBuffer)
      (something : rxBuffer ≠ [])
      (same : answered = state.requestCounter.bind fun requestCounter =>
        answer requestCounter (parse conversion rxBuffer)) :
      Move conversion state .server
        { state with
          requestCounter := answered.map Prod.fst
          point := .closing client }
        [.answered client answered]
  | close {client : Nat}
      (here : state.point = .recvFailed client ∨ state.point = .closing client) :
      Move conversion state .server (state.goTo .testing) [.closed client]
  | cleanUp (here : state.point = .cleaningUp) :
      Move conversion state .server (state.goTo .returned)
        [.reported state.requestCounter]
  | connect :
      Move conversion state .connect
        { state with clients := state.clients ++ [none] } []
  | send {client : Nat} {segment : Bytes}
      (silent : state.clients[client]? = some none) :
      Move conversion state (.send client segment)
        { state with clients := state.clients.set client (some segment) } []
  | fail {point : Point} (failed : state.point.failed = some point) :
      Move conversion state .fail (state.goTo point) []
  | interrupt :
      Move conversion state .sigint state.interrupt [.interrupted]

theorem serverStep_move
    (taken : serverStep conversion state = some (next, events)) :
    Move conversion state .server next events := by
  unfold serverStep at taken
  split at taken
  case h_1 here =>
    cases taken
    exact .test here
  case h_2 here =>
    split at taken
    case isTrue waiting =>
      cases taken
      exact .accept (by rw [here]; rfl) waiting
    case isFalse nobody =>
      cases taken
      exact .awaitAccept here nobody
  case h_3 here =>
    split at taken
    case isTrue waiting =>
      cases taken
      exact .accept (by rw [here]; rfl) waiting
    case isFalse => cases taken
  case h_4 here =>
    cases taken
    exact .acceptFailed here
  case h_5 client here =>
    split at taken
    case h_1 segment arrived =>
      cases taken
      exact .recv (by rw [here]; rfl) arrived
    case h_2 silent =>
      cases taken
      exact .awaitRecv here silent
  case h_6 client here =>
    obtain ⟨segment, arrived, same⟩ := Option.map_eq_some_iff.mp taken
    cases same
    exact .recv (by rw [here]; rfl) arrived
  case h_7 client rxBuffer here =>
    split at taken
    case isTrue empty =>
      subst empty
      cases taken
      exact .disconnected here
    case isFalse something =>
      cases taken
      exact .answer here something rfl
  case h_8 client here =>
    cases taken
    exact .close (.inl here)
  case h_9 client here =>
    cases taken
    exact .close (.inr here)
  case h_10 here =>
    cases taken
    exact .cleanUp here
  case h_11 => cases taken

theorem step_move
    (taken : step conversion state action = some (next, events)) :
    Move conversion state action next events := by
  cases action with
  | server => exact serverStep_move taken
  | connect =>
      cases taken
      exact .connect
  | send client segment =>
      simp only [step] at taken
      split at taken
      case isTrue silent =>
        cases taken
        exact .send silent
      case isFalse => cases taken
  | fail =>
      obtain ⟨point, failed, same⟩ := Option.map_eq_some_iff.mp taken
      cases same
      exact .fail failed
  | sigint =>
      cases taken
      exact .interrupt

/-- Only who has connected is accepted and has a connection. -/
structure State.Connected (state : State) : Prop where
  accepted : state.accepted ≤ state.clients.length
  client : ∀ {client}, state.point.client = some client →
    client < state.accepted

theorem Move.connected (move : Move conversion state action next events)
    (connected : state.Connected) : next.Connected := by
  obtain ⟨accepted, owned⟩ := connected
  cases move with
  | test here =>
      refine ⟨accepted, fun {client} held => ?_⟩
      cases running : state.keepRunning <;>
        simp [State.goTo, running, Point.client] at held
  | accept here waiting =>
      refine ⟨waiting, fun {client} held => ?_⟩
      cases held
      exact Nat.lt_succ_self _
  | awaitAccept | acceptFailed | close | cleanUp => exact ⟨accepted, nofun⟩
  | recv here arrived =>
      refine ⟨accepted, fun {client} held => owned ?_⟩
      exact (Point.client_of_receives here).trans held
  | awaitRecv here | disconnected here | answer here =>
      refine ⟨accepted, fun {client} held => owned ?_⟩
      rw [here]
      exact held
  | connect =>
      refine ⟨?_, owned⟩
      rw [List.length_append]
      exact accepted.trans (Nat.le_add_right ..)
  | send =>
      refine ⟨?_, owned⟩
      rw [List.length_set]
      exact accepted
  | fail failed =>
      refine ⟨accepted, fun {client} held => owned ?_⟩
      exact (Point.client_failed failed).symm.trans held
  | interrupt =>
      refine ⟨accepted, fun {client} held => owned ?_⟩
      exact (Point.client_interrupted _).symm.trans held

theorem run_connected {allowed : State → Action → Prop} {trace : List Event}
    {last : State}
    (steps : (server conversion).RunWithin allowed initial trace last) :
    last.Connected :=
  steps.invariant State.Connected ⟨Nat.le_refl _, nofun⟩
    fun connected _ taken => (step_move taken).connected connected

end Moves

end SysOp.Lab7
