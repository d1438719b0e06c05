import SysOp.Lab7.RoundTrip
import SysOp.Lab7.Sessions

/-!
# Many clients

When everybody who connects is `client/main.c`, each client that is answered
prints the sum of the numbers of all who have been answered up to it, however
the connections and the signals interleave, and the server reports the last sum.
-/

namespace SysOp.Lab7

open SysOp.Foundation

/-- Everybody sends what `client/main.c` sends for its number, or nothing at
all. -/
def FromClient (number : Nat → Int) (_ : State) : Action → Prop
  | .send client segment =>
      segment = [] ∨
        segment = clientRequest (decimal (number client)) ∧
          IsInt (number client)
  | _ => True

instance (number : Nat → Int) (state : State) :
    ∀ action, Decidable (FromClient number state action)
  | .send _ _ => inferInstanceAs (Decidable (_ ∨ _ ∧ _))
  | .server | .connect | .fail | .sigint => .isTrue trivial

def Event.answeredClient : Event → Option Nat
  | .answered client _ => some client
  | _ => none

/-- Who has been answered, in this order. -/
def answeredClients (trace : List Event) : List Nat :=
  trace.filterMap Event.answeredClient

/-- What there is to `recv` has been sent by the clients. -/
def Sent (number : Nat → Int) (state : State) : Prop :=
  ∀ client segment, state.arrived client = some segment →
    FromClient number state (.send client segment)

/-- `REQUEST_COUNTER` is the sum of the numbers of those who have been answered,
as long as all sums on the way are `int`s, and each of them has printed the
sum up to its own number. -/
structure Summed (number : Nat → Int) (trace : List Event)
    (state : State) : Prop where
  order : (answeredClients trace).Pairwise (· < ·)
  given : ∀ client ∈ answeredClients trace, IsInt (number client)
  counted : Within INT_MIN INT_MAX 0 ((answeredClients trace).map number) →
    state.requestCounter = some ((answeredClients trace).map number).sum
  printed : Within INT_MIN INT_MAX 0 ((answeredClients trace).map number) →
    ∀ earlier client, earlier ++ [client] <+: answeredClients trace →
      ∃ response,
        .answered client
          (some (((earlier ++ [client]).map number).sum, some response)) ∈
            trace ∧
        clientPrints response = bytes "Liczba pobrań strony: " ++
          decimal ((earlier ++ [client]).map number).sum ++ bytes "\n"

section Traces

variable {conversion : IntConversion} {requestCounter : Option Int}
  {client : Nat}

@[simp]
theorem answeredClients_append (earlier later : List Event) :
    answeredClients (earlier ++ later) =
      answeredClients earlier ++ answeredClients later :=
  List.filterMap_append ..

theorem answeredClients_quiet (trace : List Event) :
    answeredClients (quiet trace) = answeredClients trace := by
  induction trace with
  | nil => rfl
  | cons event rest inductionHypothesis =>
      have split : quiet (event :: rest) = quiet [event] ++ quiet rest :=
        quiet_append [event] rest
      rw [split, answeredClients_append, inductionHypothesis]
      cases event <;> rfl

theorem mem_answeredClients_attend {session : Option Bytes} {other : Nat}
    (answered : other ∈ answeredClients
      (attend conversion requestCounter client session).2) :
    other = client := by
  cases session with
  | none => cases answered
  | some segment => exact List.mem_singleton.mp answered

theorem lt_of_mem_answeredClients_attendAll {sessions : List (Option Bytes)}
    {other : Nat}
    (answered : other ∈ answeredClients
      (attendAll conversion requestCounter client sessions).2) :
    other < client + sessions.length := by
  induction sessions generalizing requestCounter client with
  | nil => cases answered
  | cons session rest inductionHypothesis =>
      rw [attendAll, answeredClients_append, List.mem_append] at answered
      rw [List.length_cons]
      rcases answered with own | later
      · have same := mem_answeredClients_attend own
        omega
      · have below := inductionHypothesis later
        omega

end Traces

section Steps

variable {conversion : IntConversion} {number : Nat → Int}
  {state next : State} {action : Action} {past events : List Event}

/-- What arrives has arrived before or is being sent. -/
theorem Move.arrived_cases (move : Move conversion state action next events)
    {client : Nat} {segment : Bytes}
    (arrived : next.arrived client = some segment) :
    state.arrived client = some segment ∨ action = .send client segment := by
  cases move with
  | connect =>
      have found : (state.clients ++ [none])[client]? = some (some segment) :=
        Option.join_eq_some_iff.mp arrived
      rcases getElem?_append_cases found with old | ⟨_, new⟩
      · exact .inl (Option.join_eq_some_iff.mpr old)
      · cases new
  | @send sender sent silent =>
      have found : (state.clients.set sender (some sent))[client]? =
          some (some segment) := Option.join_eq_some_iff.mp arrived
      rw [List.getElem?_set] at found
      split at found
      case isTrue same =>
        split at found <;> cases found
        rw [same]
        exact .inr rfl
      case isFalse => exact .inl (Option.join_eq_some_iff.mpr found)
  | test | accept | awaitAccept | acceptFailed | recv | awaitRecv
  | disconnected | answer | close | cleanUp | fail | interrupt =>
      exact .inl arrived

theorem Move.sent (move : Move conversion state action next events)
    (permitted : FromClient number state action) (sent : Sent number state) :
    Sent number next := by
  intro client segment arrived
  rcases move.arrived_cases arrived with old | rfl
  · exact sent client segment old
  · exact permitted

/-- Whoever the server answers now comes after all it has answered, and gets the
answer to the number of `client/main.c`. -/
theorem Attending.answer {sessions : List (Option Bytes)}
    (attending : Attending conversion past state sessions)
    (sent : Sent number state) {client : Nat} {rxBuffer : Bytes}
    (here : state.point = .received client rxBuffer)
    (something : rxBuffer ≠ []) :
    (∀ earlier ∈ answeredClients past, earlier < client) ∧
      IsInt (number client) ∧
        rxBuffer = recv (BUFFER_SIZE - 1)
          (clientRequest (decimal (number client))) := by
  have standing := attending.standing
  rw [Standing, here] at standing
  obtain ⟨rfl, _, _, trace, segment, arrived, rfl⟩ := standing
  refine ⟨?_, ?_⟩
  · intro earlier answered
    rw [← answeredClients_quiet, trace, answeredClients_append,
      List.mem_append] at answered
    rcases answered with old | own
    · have below := lt_of_mem_answeredClients_attendAll old
      omega
    · cases own
  · rcases sent _ _ arrived with rfl | ⟨rfl, given⟩
    · exact absurd rfl something
    · exact ⟨given, rfl⟩

/-- The answer to a client: the counter grows by its number, and the client
prints the sum. -/
theorem answer_client (conversion : IntConversion) {requestCounter n : Int}
    (given : IsInt n) (sum : IsInt (requestCounter + n))
    (something : recv (BUFFER_SIZE - 1) (clientRequest (decimal n)) ≠ []) :
    ∃ response,
      answer requestCounter (parse conversion
          (recv (BUFFER_SIZE - 1) (clientRequest (decimal n)))) =
        some (requestCounter + n, some response) ∧
      clientPrints response = bytes "Liczba pobrań strony: " ++
        decimal (requestCounter + n) ++ bytes "\n" := by
  obtain ⟨_, _, response, served, _, printed, _⟩ :=
    roundTrip conversion given sum
  rw [serve, if_neg something] at served
  exact ⟨response, served, printed⟩

/-- Steps in which nobody is answered. -/
theorem Summed.frame (summed : Summed number past state)
    (nobody : answeredClients events = [])
    (counter : next.requestCounter = state.requestCounter) :
    Summed number (past ++ events) next := by
  have same : answeredClients (past ++ events) = answeredClients past := by
    rw [answeredClients_append, nobody, List.append_nil]
  refine ⟨same ▸ summed.order, same ▸ summed.given, ?_, ?_⟩
  · rw [same, counter]
    exact summed.counted
  · rw [same]
    intro within earlier client before
    obtain ⟨response, answered, printed⟩ :=
      summed.printed within earlier client before
    exact ⟨response, List.mem_append_left _ answered, printed⟩

theorem Move.summed (move : Move conversion state action next events)
    {sessions : List (Option Bytes)}
    (attending : Attending conversion past state sessions)
    (sent : Sent number state) (summed : Summed number past state) :
    Summed number (past ++ events) next := by
  cases move with
  | @answer client rxBuffer answered here something same =>
      obtain ⟨after, given, rfl⟩ := attending.answer sent here something
      have clients : answeredClients (past ++ [.answered client answered]) =
          answeredClients past ++ [client] := answeredClients_append ..
      have step (within : Within INT_MIN INT_MAX 0
          ((answeredClients past ++ [client]).map number)) :
          Within INT_MIN INT_MAX 0 ((answeredClients past).map number) ∧
          ∃ response, answered =
            some (((answeredClients past ++ [client]).map number).sum,
              some response) ∧
            clientPrints response = bytes "Liczba pobrań strony: " ++
              decimal ((answeredClients past ++ [client]).map number).sum ++
              bytes "\n" := by
        have before : Within INT_MIN INT_MAX 0
            ((answeredClients past).map number) := fun prior short =>
          within prior (short.trans
            ((List.prefix_append _ _).map number))
        have whole := within _ (List.prefix_refl _)
        rw [Int.zero_add] at whole
        have split : ((answeredClients past ++ [client]).map number).sum =
            ((answeredClients past).map number).sum + number client := by
          simp
        rw [split] at whole ⊢
        obtain ⟨response, served, printed⟩ :=
          answer_client conversion given whole something
        refine ⟨before, response, ?_, printed⟩
        rw [same, summed.counted before, Option.bind_some, served]
      refine ⟨?_, ?_, ?_, ?_⟩
      · rw [clients, List.pairwise_append]
        refine ⟨summed.order, List.pairwise_singleton _ _, ?_⟩
        intro earlier old later new
        rw [List.mem_singleton.mp new]
        exact after earlier old
      · rw [clients]
        intro other member
        rcases List.mem_append.mp member with old | new
        · exact summed.given other old
        · rw [List.mem_singleton.mp new]
          exact given
      · rw [clients]
        intro within
        obtain ⟨_, response, rfl, _⟩ := step within
        rfl
      · rw [clients]
        intro within earlier other before
        obtain ⟨prior, response, rfl, shown⟩ := step within
        rcases List.prefix_concat_iff.mp before with last | old
        · obtain ⟨rfl, ⟨⟩⟩ := List.append_inj' last rfl
          exact ⟨response, List.mem_append_right _ (List.mem_singleton_self _),
            shown⟩
        · obtain ⟨response, answered, printed⟩ :=
            summed.printed prior earlier other old
          exact ⟨response, List.mem_append_left _ answered, printed⟩
  | test | accept | awaitAccept | acceptFailed | recv | awaitRecv
  | disconnected | close | cleanUp | connect | send | fail | interrupt =>
      exact summed.frame rfl rfl

theorem initial_sent : Sent number initial := by
  intro client segment arrived
  cases arrived

theorem initial_summed : Summed number [] initial := by
  refine ⟨List.Pairwise.nil, ?_, fun _ => rfl, ?_⟩
  · intro client answered
    cases answered
  · intro _ earlier client before
    exact absurd (List.prefix_nil.mp before) (by simp)

end Steps

/-- Every client prints the sum up to its own number, and the server the whole
sum when it returns. -/
theorem clients_served (conversion : IntConversion) {number : Nat → Int}
    {trace : List Event} {state : State}
    (run : (server conversion).RunWithin (FromClient number) initial trace
      state) :
    Summed number trace state ∧
      (state.point = .returned →
        Within INT_MIN INT_MAX 0 ((answeredClients trace).map number) →
          .reported (some ((answeredClients trace).map number).sum) ∈
            trace) := by
  have summed : Summed number trace state := by
    refine (run.history (fun past reached =>
      (∃ sessions, Attending conversion past reached sessions) ∧
        Sent number reached ∧ Summed number past reached)
      ⟨⟨[], initial_attending⟩, initial_sent, initial_summed⟩ ?_).2.2
    rintro past reached action next events
      ⟨⟨sessions, attending⟩, sent, summed⟩ permitted taken
    have move := step_move taken
    exact ⟨move.attending attending, move.sent permitted sent,
      move.summed attending sent summed⟩
  refine ⟨summed, ?_⟩
  intro returned within
  obtain ⟨sessions, attending⟩ := run_attending run
  have served := attending.served
  have nobody : state.point.client = none := by rw [returned]; rfl
  have last := served.whole nobody
  rw [if_pos returned, ← served.counted nobody, summed.counted within] at last
  have reported : .reported (some ((answeredClients trace).map number).sum) ∈
      quiet trace := by
    rw [last]
    exact List.mem_append_right _ (List.mem_singleton_self _)
  exact List.mem_of_mem_filter reported

/-- The first client is given 5, the second -3. -/
private def twoNumbers (client : Nat) : Int :=
  if client = 0 then 5 else -3

/-- The request of the second client is there before that of the first. -/
private def twoClients : State × List Event :=
  ((server .saturating).execute (FromClient twoNumbers) initial
    [.connect, .connect, .send 1 (clientRequest (decimal (-3))), .server,
      .server, .server, .send 0 (clientRequest (decimal 5)), .server, .server,
      .server, .server, .server, .server, .sigint, .server, .server, .server,
      .server]).get (by decide +kernel)

theorem clients_served_two : .reported (some 2) ∈ twoClients.2 := by
  have run : (server .saturating).RunWithin (FromClient twoNumbers) initial
      twoClients.2 twoClients.1 := Machine.execute_get_runWithin _
  have answered : answeredClients twoClients.2 = [0, 1] := by decide +kernel
  have reported := (clients_served .saturating run).2 (by decide +kernel)
  rw [answered] at reported
  exact reported (by simp [twoNumbers, INT_MIN, INT_MAX])

end SysOp.Lab7
