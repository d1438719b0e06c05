import SysOp.Foundation.Population
import SysOp.Lab7.Counter
import SysOp.Lab7.Moves
import Mathlib.Data.List.ReduceOption

/-!
# One client after the other

Whoever connects, sends, or interrupts when, the server attends to its clients
in the order of their connections, each in a session of its own, and counts what
serving them one after the other counts.
-/

namespace SysOp.Lab7

open SysOp.Foundation

section Reference

variable (conversion : IntConversion)

/-- A whole session: the connection is accepted, answered if the server has
heard something, and closed. -/
def attend (requestCounter : Option Int) (client : Nat) :
    Option Bytes → Option Int × List Event
  | none => (requestCounter, [.accepted client, .closed client])
  | some segment =>
      let answered := requestCounter.bind fun requestCounter =>
        serve conversion requestCounter segment
      (answered.map Prod.fst,
        [.accepted client, .answered client answered, .closed client])

/-- The sessions of `client` and of all who come after. -/
def attendAll (requestCounter : Option Int) (client : Nat) :
    List (Option Bytes) → Option Int × List Event
  | [] => (requestCounter, [])
  | session :: rest =>
      let (requestCounter, events) :=
        attend conversion requestCounter client session
      let (requestCounter, later) :=
        attendAll requestCounter (client + 1) rest
      (requestCounter, events ++ later)

variable {conversion} {requestCounter : Option Int} {client : Nat}
  {sessions : List (Option Bytes)}

theorem attendAll_concat (session : Option Bytes) :
    attendAll conversion requestCounter client (sessions ++ [session]) =
      ((attend conversion
          (attendAll conversion requestCounter client sessions).1
          (client + sessions.length) session).1,
        (attendAll conversion requestCounter client sessions).2 ++
          (attend conversion
            (attendAll conversion requestCounter client sessions).1
            (client + sessions.length) session).2) := by
  induction sessions generalizing requestCounter client with
  | nil => simp [attendAll]
  | cons first rest inductionHypothesis =>
      have place : client + 1 + rest.length =
          client + (first :: rest).length := by
        rw [List.length_cons]
        omega
      simp only [List.cons_append, attendAll, inductionHypothesis, place,
        List.append_assoc]

/-- The counter depends only on what has been heard. -/
theorem attendAll_counter :
    (attendAll conversion requestCounter client sessions).1 =
      requestCounter.bind fun requestCounter =>
        serveAll conversion requestCounter sessions.reduceOption := by
  induction sessions generalizing requestCounter client with
  | nil => cases requestCounter <;> rfl
  | cons session rest inductionHypothesis =>
      cases session with
      | none =>
          simp only [attendAll, attend, inductionHypothesis,
            List.reduceOption_cons_of_none]
      | some segment =>
          simp only [attendAll, attend, inductionHypothesis,
            List.reduceOption_cons_of_some]
          cases requestCounter with
          | none => rfl
          | some requestCounter =>
              simp only [Option.bind_some, Option.bind_map]
              rfl

end Reference

/-- Without the signals. -/
def quiet (trace : List Event) : List Event :=
  trace.filter (· ≠ .interrupted)

/-- What a session has heard is what its client has sent. -/
def State.Heard (state : State) (client : Nat) (session : Option Bytes) :
    Prop :=
  ∀ segment, session = some segment →
    state.arrived client = some segment ∧ segment ≠ []

/-- The server has attended to these sessions, and stands where it stands in the
next one. -/
def Standing (conversion : IntConversion) (sessions : List (Option Bytes))
    (past : List Event) (state : State) : Prop :=
  let all := attendAll conversion (some 0) 0 sessions
  match state.point with
  | .testing | .callingAccept | .waitingAccept | .acceptFailed
  | .cleaningUp =>
      state.accepted = sessions.length ∧ state.requestCounter = all.1 ∧
        quiet past = all.2
  | .returned =>
      state.accepted = sessions.length ∧ state.requestCounter = all.1 ∧
        quiet past = all.2 ++ [.reported all.1]
  | .callingRecv client | .waitingRecv client | .recvFailed client =>
      client = sessions.length ∧ state.accepted = client + 1 ∧
        state.requestCounter = all.1 ∧ quiet past = all.2 ++ [.accepted client]
  | .received client rxBuffer =>
      client = sessions.length ∧ state.accepted = client + 1 ∧
        state.requestCounter = all.1 ∧
        quiet past = all.2 ++ [.accepted client] ∧
        ∃ segment, state.arrived client = some segment ∧
          rxBuffer = recv (BUFFER_SIZE - 1) segment
  | .closing client =>
      client = sessions.length ∧ state.accepted = client + 1 ∧
        ∃ session begun, state.Heard client session ∧
          attend conversion all.1 client session =
            (state.requestCounter, begun ++ [.closed client]) ∧
          quiet past = all.2 ++ begun

structure Attending (conversion : IntConversion) (past : List Event)
    (state : State) (sessions : List (Option Bytes)) : Prop where
  heard : ∀ client session, sessions[client]? = some session →
    state.Heard client session
  standing : Standing conversion sessions past state

section Steps

variable {conversion : IntConversion} {state next : State} {action : Action}
  {past events : List Event} {sessions : List (Option Bytes)}

theorem heard_none (client : Nat) : state.Heard client none := by
  intro segment same
  cases same

theorem quiet_append (earlier later : List Event) :
    quiet (earlier ++ later) = quiet earlier ++ quiet later :=
  List.filter_append ..

/-- What has been sent is there for good. -/
theorem Move.arrived (move : Move conversion state action next events)
    {client : Nat} {segment : Bytes}
    (arrived : state.arrived client = some segment) :
    next.arrived client = some segment := by
  have found : state.clients[client]? = some (some segment) :=
    Option.join_eq_some_iff.mp arrived
  cases move with
  | connect =>
      obtain ⟨inside, _⟩ := List.getElem?_eq_some_iff.mp found
      have still : (state.clients ++ [none])[client]? = some (some segment) := by
        rw [List.getElem?_append_left inside, found]
      exact Option.join_eq_some_iff.mpr still
  | @send sender sent silent =>
      have other : sender ≠ client := by
        rintro rfl
        rw [found] at silent
        cases silent
      have still : (state.clients.set sender (some sent))[client]? =
          some (some segment) := by
        rw [List.getElem?_set_ne other, found]
      exact Option.join_eq_some_iff.mpr still
  | test | accept | awaitAccept | acceptFailed | recv | awaitRecv
  | disconnected | answer | close | cleanUp | fail | interrupt => exact arrived

theorem Move.heard (move : Move conversion state action next events)
    {client : Nat} {session : Option Bytes}
    (heard : state.Heard client session) : next.Heard client session := by
  intro segment same
  obtain ⟨arrived, something⟩ := heard segment same
  exact ⟨move.arrived arrived, something⟩

/-- A step of the clients does not change where the server stands. -/
theorem Standing.frame (standing : Standing conversion sessions past state)
    (move : Move conversion state action next events)
    (point : next.point = state.point)
    (accepted : next.accepted = state.accepted)
    (counter : next.requestCounter = state.requestCounter)
    (silent : quiet (past ++ events) = quiet past) :
    Standing conversion sessions (past ++ events) next := by
  unfold Standing at standing ⊢
  rw [point, accepted, counter, silent]
  cases here : state.point <;> simp only [here] at standing ⊢
  case received =>
    obtain ⟨own, count, same, trace, segment, arrived, read⟩ := standing
    exact ⟨own, count, same, trace, segment, move.arrived arrived, read⟩
  case closing =>
    obtain ⟨own, count, session, begun, heard, whole, trace⟩ := standing
    exact ⟨own, count, session, begun, move.heard heard, whole, trace⟩
  all_goals exact standing

theorem Attending.stay (attending : Attending conversion past state sessions)
    (move : Move conversion state action next events)
    (standing : Standing conversion sessions (past ++ events) next) :
    Attending conversion (past ++ events) next sessions :=
  ⟨fun client session found => move.heard (attending.heard client session found),
    standing⟩

/-- A session is over. -/
theorem Attending.close (attending : Attending conversion past state sessions)
    {client : Nat}
    (here : state.point = .recvFailed client ∨ state.point = .closing client) :
    ∃ session, Attending conversion (past ++ [.closed client])
      (state.goTo .testing) (sessions ++ [session]) := by
  obtain ⟨heard, standing⟩ := attending
  have ended : ∃ session begun, client = sessions.length ∧
      state.accepted = client + 1 ∧ state.Heard client session ∧
      attend conversion (attendAll conversion (some 0) 0 sessions).1 client
          session = (state.requestCounter, begun ++ [.closed client]) ∧
        quiet past = (attendAll conversion (some 0) 0 sessions).2 ++ begun := by
    rcases here with here | here
    · rw [Standing, here] at standing
      obtain ⟨own, count, same, trace⟩ := standing
      refine ⟨none, [.accepted client], own, count, heard_none client, ?_,
        trace⟩
      rw [same]
      rfl
    · rw [Standing, here] at standing
      obtain ⟨own, count, session, begun, kept, whole, trace⟩ := standing
      exact ⟨session, begun, own, count, kept, whole, trace⟩
  obtain ⟨session, begun, rfl, count, kept, whole, trace⟩ := ended
  refine ⟨session, ?_, ?_⟩
  · intro client other found
    rcases getElem?_append_cases found with old | ⟨rfl, rfl⟩
    · exact heard client other old
    · exact kept
  · have longer : attendAll conversion (some 0) 0 (sessions ++ [session]) = _ :=
      attendAll_concat session
    rw [Nat.zero_add, whole] at longer
    refine ⟨?_, ?_, ?_⟩
    · rw [List.length_append]
      exact count
    · rw [longer]
      rfl
    · rw [longer, quiet_append, trace, List.append_assoc]
      rfl

section Kinds

variable {client : Nat}

theorem Standing.test (standing : Standing conversion sessions past state)
    (here : state.point = .testing) :
    Standing conversion sessions past (state.goTo
      (if state.keepRunning then .callingAccept else .cleaningUp)) := by
  rw [Standing, here] at standing
  cases running : state.keepRunning <;>
    simpa [Standing, State.goTo, running] using standing

/-- The client is the next of the sessions. -/
theorem Standing.accept (standing : Standing conversion sessions past state)
    (here : state.point.accepts) :
    Standing conversion sessions (past ++ [.accepted state.accepted])
      state.accept := by
  have before : state.accepted = sessions.length ∧
      state.requestCounter = (attendAll conversion (some 0) 0 sessions).1 ∧
      quiet past = (attendAll conversion (some 0) 0 sessions).2 := by
    unfold Standing at standing
    cases point : state.point <;> rw [point] at here standing <;>
      first | exact standing | cases here
  obtain ⟨count, same, trace⟩ := before
  refine ⟨count, rfl, same, ?_⟩
  rw [quiet_append, trace]
  rfl

theorem Standing.recv (standing : Standing conversion sessions past state)
    {segment : Bytes} (here : state.point.receives = some client)
    (arrived : state.arrived client = some segment) :
    Standing conversion sessions past
      (state.goTo (.received client (recv (BUFFER_SIZE - 1) segment))) := by
  have before : client = sessions.length ∧ state.accepted = client + 1 ∧
      state.requestCounter = (attendAll conversion (some 0) 0 sessions).1 ∧
      quiet past = (attendAll conversion (some 0) 0 sessions).2 ++
        [.accepted client] := by
    unfold Standing at standing
    cases point : state.point <;> rw [point] at here standing <;>
      cases here <;> exact standing
  obtain ⟨own, count, same, trace⟩ := before
  exact ⟨own, count, same, trace, segment, arrived, rfl⟩

/-- A client that has closed counts as one that was not heard. -/
theorem Standing.disconnected
    (standing : Standing conversion sessions past state)
    (here : state.point = .received client []) :
    Standing conversion sessions past (state.goTo (.closing client)) := by
  rw [Standing, here] at standing
  obtain ⟨own, count, same, trace, _⟩ := standing
  refine ⟨own, count, none, [.accepted client], heard_none client, ?_, trace⟩
  exact Prod.ext same.symm rfl

/-- The request is answered as `serve` answers it. -/
theorem Standing.answer (standing : Standing conversion sessions past state)
    {rxBuffer : Bytes} {answered : Option (Int × Option Bytes)}
    (here : state.point = .received client rxBuffer)
    (something : rxBuffer ≠ [])
    (same : answered = state.requestCounter.bind fun requestCounter =>
      Lab7.answer requestCounter (parse conversion rxBuffer)) :
    Standing conversion sessions (past ++ [.answered client answered])
      { state with
        requestCounter := answered.map Prod.fst
        point := .closing client } := by
  rw [Standing, here] at standing
  obtain ⟨own, count, counter, trace, segment, arrived, rfl⟩ := standing
  have nonempty : segment ≠ [] := by
    rintro rfl
    exact something rfl
  have served : answered = state.requestCounter.bind
      fun requestCounter => serve conversion requestCounter segment := by
    rw [same]
    refine Option.bind_congr fun requestCounter _ => ?_
    rw [serve, if_neg something]
  refine ⟨own, count, some segment,
    [.accepted client, .answered client answered], ?_, ?_, ?_⟩
  · rintro _ ⟨⟩
    exact ⟨arrived, nonempty⟩
  · rw [← counter, attend, ← served]
    rfl
  · rw [quiet_append, trace, List.append_assoc]
    rfl

theorem Standing.cleanUp (standing : Standing conversion sessions past state)
    (here : state.point = .cleaningUp) :
    Standing conversion sessions (past ++ [.reported state.requestCounter])
      (state.goTo .returned) := by
  rw [Standing, here] at standing
  obtain ⟨count, same, trace⟩ := standing
  refine ⟨count, same, ?_⟩
  rw [quiet_append, trace, same]
  rfl

theorem Standing.fail (standing : Standing conversion sessions past state)
    {point : Point} (failed : state.point.failed = some point) :
    Standing conversion sessions past (state.goTo point) := by
  unfold Standing at standing ⊢
  cases point : state.point <;> rw [point] at failed standing <;>
    cases failed <;> exact standing

theorem Standing.interrupt
    (standing : Standing conversion sessions past state) :
    Standing conversion sessions (past ++ [.interrupted]) state.interrupt := by
  have trace : quiet (past ++ [.interrupted]) = quiet past := by
    rw [quiet_append]
    exact List.append_nil _
  unfold Standing at standing ⊢
  rw [trace, State.interrupt]
  cases point : state.point <;> rw [point] at standing <;> exact standing

end Kinds

theorem Move.attending (move : Move conversion state action next events)
    (attending : Attending conversion past state sessions) :
    ∃ sessions, Attending conversion (past ++ events) next sessions := by
  have standing := attending.standing
  have stay := fun standing => Exists.intro sessions
    (attending.stay move standing)
  have silent : quiet (past ++ []) = quiet past := by rw [List.append_nil]
  cases move with
  | close here =>
      obtain ⟨session, after⟩ := attending.close here
      exact ⟨_, after⟩
  | accept here => exact stay (standing.accept here)
  | answer here something same =>
      exact stay (standing.answer here something same)
  | cleanUp here => exact stay (standing.cleanUp here)
  | interrupt => exact stay standing.interrupt
  | connect => exact stay (standing.frame .connect rfl rfl rfl silent)
  | send unsent => exact stay (standing.frame (.send unsent) rfl rfl rfl silent)
  | awaitAccept here | acceptFailed here | awaitRecv here =>
      rw [Standing, here] at standing
      apply stay
      rw [List.append_nil]
      exact standing
  | test here =>
      apply stay
      rw [List.append_nil]
      exact standing.test here
  | recv here arrived =>
      apply stay
      rw [List.append_nil]
      exact standing.recv here arrived
  | disconnected here =>
      apply stay
      rw [List.append_nil]
      exact standing.disconnected here
  | fail failed =>
      apply stay
      rw [List.append_nil]
      exact standing.fail failed

end Steps

/-- The sessions so far, and the part of the next one that has begun. -/
structure Served (conversion : IntConversion) (trace : List Event)
    (state : State) (sessions : List (Option Bytes)) : Prop where
  accepted : state.accepted =
    sessions.length + if state.point.client.isSome then 1 else 0
  heard : ∀ client session, sessions[client]? = some session →
    state.Heard client session
  counted : state.point.client = none →
    state.requestCounter = serveAll conversion 0 sessions.reduceOption
  whole : state.point.client = none → quiet trace =
    (attendAll conversion (some 0) 0 sessions).2 ++
      if state.point = .returned then
        [.reported (serveAll conversion 0 sessions.reduceOption)] else []
  begun : ∀ client, state.point.client = some client →
    ∃ session begun ended, state.Heard client session ∧
      quiet trace = (attendAll conversion (some 0) 0 sessions).2 ++ begun ∧
      begun ++ ended = (attend conversion
        (serveAll conversion 0 sessions.reduceOption) client session).2 ∧
      ended ≠ []

section Runs

variable {conversion : IntConversion} {trace : List Event} {state : State}
  {sessions : List (Option Bytes)}

theorem initial_attending : Attending conversion [] initial [] :=
  ⟨fun _ _ found => absurd found (by simp), rfl, rfl, rfl⟩

/-- Between two sessions. -/
theorem Served.between (nobody : state.point.client = none)
    (accepted : state.accepted = sessions.length)
    (heard : ∀ client session, sessions[client]? = some session →
      state.Heard client session)
    (counted : state.requestCounter =
      serveAll conversion 0 sessions.reduceOption)
    (whole : quiet trace = (attendAll conversion (some 0) 0 sessions).2 ++
      if state.point = .returned then
        [.reported (serveAll conversion 0 sessions.reduceOption)] else []) :
    Served conversion trace state sessions := by
  refine ⟨?_, heard, fun _ => counted, fun _ => whole, ?_⟩
  · rw [nobody, accepted]
    rfl
  · intro client own
    rw [nobody] at own
    cases own

/-- During a session. -/
theorem Served.during (own : state.point.client = some sessions.length)
    (accepted : state.accepted = sessions.length + 1)
    (heard : ∀ client session, sessions[client]? = some session →
      state.Heard client session)
    {session : Option Bytes} {begun ended : List Event}
    (current : state.Heard sessions.length session)
    (past : quiet trace =
      (attendAll conversion (some 0) 0 sessions).2 ++ begun)
    (whole : begun ++ ended = (attend conversion
      (serveAll conversion 0 sessions.reduceOption) sessions.length
      session).2)
    (unfinished : ended ≠ []) : Served conversion trace state sessions := by
  refine ⟨?_, heard, ?_, ?_, ?_⟩
  · rw [own, accepted]
    rfl
  · intro nobody
    rw [own] at nobody
    cases nobody
  · intro nobody
    rw [own] at nobody
    cases nobody
  · intro client same
    rw [own] at same
    cases same
    exact ⟨session, begun, ended, current, past, whole, unfinished⟩

theorem Attending.served
    (attending : Attending conversion trace state sessions) :
    Served conversion trace state sessions := by
  have counter : (attendAll conversion (some 0) 0 sessions).1 =
      serveAll conversion 0 sessions.reduceOption := attendAll_counter
  obtain ⟨heard, standing⟩ := attending
  simp only [Standing, counter] at standing
  cases here : state.point <;> simp only [here] at standing
  case testing | callingAccept | waitingAccept | acceptFailed | cleaningUp =>
    obtain ⟨count, same, whole⟩ := standing
    refine .between (by rw [here]; rfl) count heard same ?_
    simpa [here] using whole
  case returned =>
    obtain ⟨count, same, whole⟩ := standing
    refine .between (by rw [here]; rfl) count heard same ?_
    simpa [here] using whole
  case callingRecv client | waitingRecv client | recvFailed client =>
    obtain ⟨rfl, count, _, trace⟩ := standing
    exact .during (by rw [here]; rfl) count heard (heard_none _) trace rfl
      (List.cons_ne_nil _ _)
  case received client rxBuffer =>
    obtain ⟨rfl, count, _, trace, _⟩ := standing
    exact .during (by rw [here]; rfl) count heard (heard_none _) trace rfl
      (List.cons_ne_nil _ _)
  case closing client =>
    obtain ⟨rfl, count, session, begun, current, whole, trace⟩ := standing
    exact .during (by rw [here]; rfl) count heard current trace
      (congrArg Prod.snd whole).symm (List.cons_ne_nil _ _)

theorem run_attending {allowed : State → Action → Prop}
    (run : (server conversion).RunWithin allowed initial trace state) :
    ∃ sessions, Attending conversion trace state sessions :=
  run.history (fun past reached =>
    ∃ sessions, Attending conversion past reached sessions)
    ⟨[], initial_attending⟩ fun ⟨_, attending⟩ _ taken =>
      (step_move taken).attending attending

/-- In whatever order things happen, the server does what a server does that
serves one client after the other. -/
theorem sessions_served {allowed : State → Action → Prop}
    (run : (server conversion).RunWithin allowed initial trace state) :
    ∃ sessions, Served conversion trace state sessions := by
  obtain ⟨sessions, attending⟩ := run_attending run
  exact ⟨sessions, attending.served⟩

/-- The second client is there first, and the signal before it is answered. -/
private def secondFirst : State × List Event :=
  ((server .saturating).execute (fun _ _ => True) initial
    [.connect, .connect, .send 1 (bytes "GET /"), .server, .server, .server,
      .send 0 (bytes "ZADANIE 5"), .server, .server, .server, .server, .server,
      .server, .sigint, .server, .server, .server, .server]).get
    (by decide +kernel)

theorem sessions_served_secondFirst :
    ∃ sessions,
      Served .saturating secondFirst.2 secondFirst.1 sessions :=
  sessions_served (Machine.execute_get_runWithin _ :
    (server .saturating).RunWithin (fun _ _ => True) initial secondFirst.2
      secondFirst.1)

end Runs

end SysOp.Lab7
