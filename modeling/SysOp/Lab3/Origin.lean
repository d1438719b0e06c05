import SysOp.Lab3.Moves

/-!
# Where the answers come from

A request carries no name and an answer carries none, so all that can be said
of an answer is a set of requests it may be for: those that were `asked`.  In
every run these are the requests written so far.
-/

namespace SysOp.Lab3

open SysOp.Foundation

section

variable {Double : Type}

theorem ClientMove.asked {index : Nat} {service after : Service Double}
    {client moved : Client Double} {events : List (Event Double)}
    (taken : ClientMove index service client after moved events)
    (asked : moved.point.asked) :
    moved.req = client.req ∧
      (client.point.asked ∨ .wrote index client.req ∈ events) := by
  cases taken with
  | openReq | awaitReq | brokenPipe | closeRes => cases asked
  | write => exact ⟨rfl, .inr (List.mem_singleton.mpr rfl)⟩
  | closeReq here | openRes here | awaitRes here | read here
  | readEof here => exact ⟨rfl, .inl (by rw [here]; rfl)⟩

variable [Add Double] [Mul Double] [Div Double] [LT Double]
  [DecidableLT Double] [OfNat Double 0] [OfNat Double 1] [OfNat Double 4]

/-- The value answers one of the requests. -/
def Answers (asked : Interval Double → Prop) (wynik : Double) : Prop :=
  ∃ req, asked req ∧ req.Integral wynik

theorem Answers.mono {asked more : Interval Double → Prop} {wynik : Double}
    (answers : Answers asked wynik) (grown : ∀ req, asked req → more req) :
    Answers more wynik := by
  obtain ⟨req, member, integral⟩ := answers
  exact ⟨req, grown req member, integral⟩

def ServerPoint.From (asked : Interval Double → Prop) :
    ServerPoint Double → Prop
  | .closingReq (some req) => asked req
  | .computing req x result =>
      asked req ∧ ∀ fuel wynik,
        integrationLoop req.stop req.dx fuel x result = some wynik →
          req.Integral wynik
  | .openingRes wynik | .waitingRes wynik | .writing wynik =>
      Answers asked wynik
  | _ => True

/-- All that the service holds comes from requests that were asked. -/
structure Service.From (asked : Interval Double → Prop)
    (service : Service Double) : Prop where
  server : service.server.From asked
  requests : ∀ req ∈ service.requests, asked req
  responses : ∀ wynik ∈ service.responses, Answers asked wynik

section From

variable {asked : Interval Double → Prop} {service : Service Double}

theorem ServerPoint.From.mono {server : ServerPoint Double}
    {more : Interval Double → Prop} (held : server.From asked)
    (grown : ∀ req, asked req → more req) : server.From more := by
  unfold From at held ⊢
  split at held
  case h_1 req => exact grown req held
  case h_2 req x result => exact ⟨grown req held.1, held.2⟩
  case h_3 => exact held.mono grown
  case h_4 => exact held.mono grown
  case h_5 => exact held.mono grown
  case h_6 => trivial

theorem Service.From.mono {more : Interval Double → Prop}
    (held : service.From asked) (grown : ∀ req, asked req → more req) :
    service.From more where
  server := held.server.mono grown
  requests := fun req member => grown req (held.requests req member)
  responses := fun wynik member => (held.responses wynik member).mono grown

theorem ServerPoint.From.releaseReq {server : ServerPoint Double}
    (held : server.From asked) : server.releaseReq.From asked := by
  cases server <;> exact held

theorem ServerPoint.From.releaseRes {server : ServerPoint Double}
    (held : server.From asked) : server.releaseRes.From asked := by
  cases server <;> exact held

theorem ClientMove.from {index : Nat} {client moved : Client Double}
    {after : Service Double} {events : List (Event Double)}
    (held : service.From asked)
    (taken : ClientMove index service client after moved events)
    (heard : ∀ i req, .wrote i req ∈ events → asked req) :
    after.From asked := by
  cases taken with
  | openReq => exact ⟨held.server.releaseReq, held.requests, held.responses⟩
  | openRes => exact ⟨held.server.releaseRes, held.requests, held.responses⟩
  | write =>
      refine ⟨held.server, ?_, held.responses⟩
      intro req member
      rcases List.mem_append.mp member with old | new
      · exact held.requests req old
      · rw [List.mem_singleton.mp new]
        exact heard index client.req (List.mem_singleton.mpr rfl)
  | read _ queued =>
      refine ⟨held.server, held.requests, ?_⟩
      intro wynik member
      apply held.responses
      rw [queued]
      exact List.mem_cons_of_mem _ member
  | _ => exact held

theorem ServerMove.from {state next : State Double}
    (held : state.From asked) (taken : ServerMove state next) :
    next.From asked := by
  cases taken with
  | read here queued =>
      refine ⟨held.requests _ (by simp [queued]), ?_, held.responses⟩
      intro req member
      apply held.requests
      rw [queued]
      exact List.mem_cons_of_mem _ member
  | @closeReq req here =>
      have received := held.server
      rw [here] at received
      refine ⟨⟨received, ?_⟩, held.requests, held.responses⟩
      intro fuel wynik ended
      exact ⟨fuel, ended⟩
  | iterate here inside =>
      have computed := held.server
      rw [here] at computed
      refine ⟨⟨computed.1, ?_⟩, held.requests, held.responses⟩
      intro fuel wynik ended
      rw [← integrationLoop_continue inside] at ended
      exact computed.2 _ wynik ended
  | finish here outside =>
      have computed := held.server
      rw [here] at computed
      have ended := computed.2 1 _ (integrationLoop_finish outside 0 _)
      exact ⟨⟨_, computed.1, ended⟩, held.requests, held.responses⟩
  | openRes here | awaitRes here =>
      have computed := held.server
      rw [here] at computed
      exact ⟨computed, held.requests, held.responses⟩
  | write here =>
      have computed := held.server
      rw [here] at computed
      refine ⟨trivial, held.requests, ?_⟩
      intro wynik member
      rcases List.mem_append.mp member with old | new
      · exact held.responses wynik old
      · rw [List.mem_singleton.mp new]
        exact computed
  | _ => exact ⟨trivial, held.requests, held.responses⟩

theorem Service.From.settle {state : State Double} (held : state.From asked) :
    state.settle.From asked where
  server := held.server
  requests := fun req kept =>
    held.requests req (State.mem_settle_requests kept)
  responses := fun wynik kept =>
    held.responses wynik (State.mem_settle_responses kept)

theorem Move.from {state next : State Double} {action : Action Double}
    {events : List (Event Double)} (held : state.From asked)
    (taken : Move state action next events)
    (heard : ∀ i req, .wrote i req ∈ events → asked req) :
    next.From asked := by
  cases taken with
  | start | kill => exact ⟨held.server, held.requests, held.responses⟩
  | server moved => exact moved.from held
  | client _ moved => exact moved.from held heard

end From

/-- Some client has written this request. -/
def Written (past : List (Event Double)) (req : Interval Double) : Prop :=
  ∃ index, .wrote index req ∈ past

theorem run_from {trace : List (Event Double)} {state : State Double}
    (steps : (system Double).Run initial trace state) :
    state.From (Written trace) := by
  apply steps.history fun past state => state.From (Written past)
  · exact ⟨trivial, by simp [initial], by simp [initial]⟩
  · intro past state action next events held _ taken
    obtain ⟨moved, move, rfl⟩ := step_move taken
    apply Service.From.settle
    apply move.from
    · apply held.mono
      rintro req ⟨index, wrote⟩
      exact ⟨index, List.mem_append_left _ wrote⟩
    · intro index req wrote
      exact ⟨index, List.mem_append_right _ wrote⟩

omit [DecidableLT Double] in
theorem ServerMove.asked {state next : State Double} {index : Nat}
    {client : Client Double} (taken : ServerMove state next)
    (found : next.clients[index]? = some client)
    (asked : client.point.asked) :
    ∃ before, state.clients[index]? = some before ∧
      client.req = before.req ∧ before.point.asked := by
  cases taken with
  | openReq | openRes =>
      rw [List.getElem?_map, Option.map_eq_some_iff] at found
      obtain ⟨⟨req, point⟩, found, rfl⟩ := found
      refine ⟨_, found, rfl, ?_⟩
      cases point <;> first | rfl | cases asked
  | _ => exact ⟨client, found, rfl, asked⟩

/-- A client that has left its write behind wrote its own interval. -/
theorem run_asked {trace : List (Event Double)} {state : State Double}
    (steps : (system Double).Run initial trace state) :
    ∀ index client, state.clients[index]? = some client →
      client.point.asked → .wrote index client.req ∈ trace := by
  apply steps.history fun past state => ∀ index client,
    state.clients[index]? = some client → client.point.asked →
      .wrote index client.req ∈ past
  · simp [initial]
  · intro past state action next events held _ taken index client found asked
    obtain ⟨moved, move, rfl⟩ := step_move taken
    rw [State.settle_clients] at found
    rw [List.mem_append]
    cases move with
    | start req =>
        rcases getElem?_append_cases found with old | ⟨_, rfl⟩
        · exact .inl (held index client old asked)
        · cases asked
    | server moved =>
        obtain ⟨before, there, same, asked⟩ := moved.asked found asked
        rw [same]
        exact .inl (held index before there asked)
    | client there moved =>
        rcases getElem?_set_cases found with ⟨rfl, rfl⟩ | ⟨_, old⟩
        · obtain ⟨same, before | wrote⟩ := moved.asked asked
          · rw [same]
            exact .inl (held _ _ there before)
          · rw [same]
            exact .inr wrote
        · exact .inl (held index client old asked)
    | kill there =>
        rcases getElem?_set_cases found with ⟨rfl, rfl⟩ | ⟨_, old⟩
        · cases asked
        · exact .inl (held index client old asked)

omit [DecidableLT Double] in
/-- Only a client that reads prints, and it prints an answer it was left. -/
theorem Move.printed {state next : State Double} {action : Action Double}
    {events : List (Event Double)} {index : Nat} {wynik : Double}
    (taken : Move state action next events)
    (printed : .printed index wynik ∈ events) :
    wynik ∈ state.responses ∧ ∃ client,
      state.clients[index]? = some client ∧ client.point = .reading := by
  cases taken with
  | start | kill | server => simp at printed
  | @client _ client after service events found moved =>
      cases moved with
      | read here queued =>
          simp only [List.mem_singleton, Event.printed.injEq] at printed
          obtain ⟨rfl, rfl⟩ := printed
          exact ⟨by simp [queued], client, found, here⟩
      | _ => simp at printed

end

end SysOp.Lab3
