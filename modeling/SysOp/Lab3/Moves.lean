import SysOp.Lab3.Service

/-!
# What a step of the service can be

The inversion of `step`: eleven moves of the server, eleven of a client, and
the start of a client, each followed by the clearing of what nobody holds.
-/

namespace SysOp.Lab3

open SysOp.Foundation

section

variable {Double : Type}

@[simp]
theorem State.settle_server (state : State Double) :
    state.settle.server = state.server := rfl

@[simp]
theorem State.settle_clients (state : State Double) :
    state.settle.clients = state.clients := rfl

theorem State.mem_settle_requests {state : State Double}
    {req : Interval Double} (kept : req ∈ state.settle.requests) :
    req ∈ state.requests := by
  simp only [State.settle] at kept
  split at kept
  · exact kept
  · simp at kept

theorem State.mem_settle_responses {state : State Double} {wynik : Double}
    (kept : wynik ∈ state.settle.responses) : wynik ∈ state.responses := by
  simp only [State.settle] at kept
  split at kept
  · exact kept
  · simp at kept

theorem State.settle_unheldReq {state : State Double}
    (free : state.reqHeld = false) : state.settle.requests = [] := by
  simp [settle, free]

theorem State.settle_unheldRes {state : State Double}
    (free : state.resHeld = false) : state.settle.responses = [] := by
  simp [settle, free]

theorem State.settle_requests_of_nil {state : State Double}
    (empty : state.requests = []) : state.settle.requests = [] := by
  simp [settle, empty]

theorem State.settle_eq_self {state : State Double}
    (asked : state.requests = [] ∨ state.reqHeld)
    (answered : state.responses = [] ∨ state.resHeld) :
    state.settle = state := by
  obtain ⟨⟨server, requests, responses⟩, clients⟩ := state
  simp only [settle]
  rcases asked with rfl | held <;> rcases answered with rfl | heldRes <;>
    simp_all

theorem Client.releaseReq_of_ne {client : Client Double}
    (other : client.point ≠ .waitingReq) : client.releaseReq = client := by
  obtain ⟨req, point⟩ := client
  cases point <;> first | rfl | exact absurd rfl other

theorem Client.releaseReq_of_free {client : Client Double}
    (free : client.holdsReq = false) : client.releaseReq = client := by
  apply releaseReq_of_ne
  intro waiting
  rw [holdsReq, waiting] at free
  cases free

theorem Client.releaseRes_of_ne {client : Client Double}
    (other : client.point ≠ .waitingRes) : client.releaseRes = client := by
  obtain ⟨req, point⟩ := client
  cases point <;> first | rfl | exact absurd rfl other

theorem Client.releaseRes_of_free {client : Client Double}
    (free : client.holdsRes = false) : client.releaseRes = client := by
  apply releaseRes_of_ne
  intro waiting
  rw [holdsRes, waiting] at free
  cases free

theorem ServerPoint.releaseReq_of_free {server : ServerPoint Double}
    (free : server.holdsReq = false) : server.releaseReq = server := by
  cases server <;> first | rfl | simp [holdsReq] at free

theorem ServerPoint.releaseRes_of_free {server : ServerPoint Double}
    (free : server.holdsRes = false) : server.releaseRes = server := by
  cases server <;> first | rfl | simp [holdsRes] at free

/-- A move of the client at position `index` by its own program. -/
inductive ClientMove (index : Nat) (service : Service Double)
    (client : Client Double) :
    Service Double → Client Double → List (Event Double) → Prop where
  | openReq (here : client.point = .openingReq)
      (met : service.server.holdsReq) :
      ClientMove index service client
        { service with server := service.server.releaseReq }
        (client.moveTo .writing) []
  | awaitReq (here : client.point = .openingReq)
      (free : service.server.holdsReq = false) :
      ClientMove index service client service (client.moveTo .waitingReq) []
  | write (here : client.point = .writing) (met : service.server.holdsReq) :
      ClientMove index service client
        { service with requests := service.requests ++ [client.req] }
        (client.moveTo .closingReq) [.wrote index client.req]
  | brokenPipe (here : client.point = .writing)
      (free : service.server.holdsReq = false) :
      ClientMove index service client service (client.moveTo .ended) []
  | closeReq (here : client.point = .closingReq) :
      ClientMove index service client service (client.moveTo .openingRes) []
  | openRes (here : client.point = .openingRes)
      (met : service.server.holdsRes) :
      ClientMove index service client
        { service with server := service.server.releaseRes }
        (client.moveTo .reading) []
  | awaitRes (here : client.point = .openingRes)
      (free : service.server.holdsRes = false) :
      ClientMove index service client service (client.moveTo .waitingRes) []
  | read {wynik : Double} {rest : List Double}
      (here : client.point = .reading)
      (queued : service.responses = wynik :: rest) :
      ClientMove index service client { service with responses := rest }
        (client.moveTo .closingRes) [.printed index wynik]
  | readEof (here : client.point = .reading)
      (drained : service.responses = [])
      (free : service.server.holdsRes = false) :
      ClientMove index service client service (client.moveTo .closingRes) []
  | closeRes (here : client.point = .closingRes) :
      ClientMove index service client service (client.moveTo .ended) []

theorem clientStep_move {index : Nat} {service after : Service Double}
    {client moved : Client Double} {events : List (Event Double)}
    (taken : clientStep index service client = some (after, moved, events)) :
    ClientMove index service client after moved events := by
  unfold clientStep at taken
  split at taken
  case h_1 here =>
    cases taken
    cases met : service.server.holdsReq with
    | true => exact .openReq here met
    | false =>
        rw [ServerPoint.releaseReq_of_free met]
        exact .awaitReq here met
  case h_2 => simp at taken
  case h_3 here =>
    split at taken
    case isTrue met =>
      cases taken
      exact .write here met
    case isFalse free =>
      cases taken
      exact .brokenPipe here (by simpa using free)
  case h_4 here =>
    cases taken
    exact .closeReq here
  case h_5 here =>
    cases taken
    cases met : service.server.holdsRes with
    | true => exact .openRes here met
    | false =>
        rw [ServerPoint.releaseRes_of_free met]
        exact .awaitRes here met
  case h_6 => simp at taken
  case h_7 here =>
    split at taken
    case h_1 wynik rest queued =>
      cases taken
      exact .read here queued
    case h_2 drained =>
      split at taken
      case isTrue => simp at taken
      case isFalse free =>
        cases taken
        exact .readEof here drained (by simpa using free)
  case h_8 here =>
    cases taken
    exact .closeRes here
  case h_9 => simp at taken

theorem killClient_eq_some_iff {service after : Service Double}
    {client moved : Client Double} {events : List (Event Double)} :
    killClient service client = some (after, moved, events) ↔
      client.point ≠ .ended ∧ after = service ∧
        moved = client.moveTo .ended ∧ events = [] := by
  unfold killClient
  split
  case isTrue ended => simp [ended]
  case isFalse living => simp [living, eq_comm]

theorem moveClient_eq_some {state next : State Double} {index : Nat}
    {events : List (Event Double)}
    {move : Service Double → Client Double →
      Option (Service Double × Client Double × List (Event Double))}
    (taken : state.moveClient index move = some (next, events)) :
    ∃ client service after, state.clients[index]? = some client ∧
      move state.toService client = some (service, after, events) ∧
      next = { toService := service,
               clients := state.clients.set index after } := by
  simp only [State.moveClient, Option.map_eq_some_iff, Prod.exists,
    Prod.mk.injEq, moveAt_eq_some_iff] at taken
  obtain ⟨service, _, _, ⟨client, after, found, moved, rfl⟩, rfl, rfl⟩ := taken
  exact ⟨client, service, after, found, moved, rfl⟩

variable [Add Double] [Mul Double] [Div Double] [LT Double]
  [DecidableLT Double] [OfNat Double 0] [OfNat Double 1] [OfNat Double 4]

inductive ServerMove (state : State Double) : State Double → Prop where
  | openReq {client : Client Double} (here : state.server = .openingReq)
      (found : client ∈ state.clients) (met : client.holdsReq) :
      ServerMove state
        { state with
          server := .reading
          clients := state.clients.map Client.releaseReq }
  | awaitReq (here : state.server = .openingReq)
      (free : ∀ client ∈ state.clients, client.holdsReq = false) :
      ServerMove state { state with server := .waitingReq }
  | read {req : Interval Double} {rest : List (Interval Double)}
      (here : state.server = .reading) (queued : state.requests = req :: rest) :
      ServerMove state
        { state with requests := rest, server := .closingReq (some req) }
  | readEof (here : state.server = .reading) (drained : state.requests = [])
      (free : ∀ client ∈ state.clients, client.holdsReq = false) :
      ServerMove state { state with server := .closingReq none }
  | closeReq {req : Interval Double}
      (here : state.server = .closingReq (some req)) :
      ServerMove state { state with server := .computing req req.start 0 }
  | retry (here : state.server = .closingReq none) :
      ServerMove state { state with server := .openingReq }
  | iterate {req : Interval Double} {x result : Double}
      (here : state.server = .computing req x result)
      (inside : x < req.stop) :
      ServerMove state
        { state with
          server :=
            .computing req (x + req.dx) (result + function x * req.dx) }
  | finish {req : Interval Double} {x result : Double}
      (here : state.server = .computing req x result)
      (outside : ¬ x < req.stop) :
      ServerMove state { state with server := .openingRes result }
  | openRes {wynik : Double} {client : Client Double}
      (here : state.server = .openingRes wynik)
      (found : client ∈ state.clients) (met : client.holdsRes) :
      ServerMove state
        { state with
          server := .writing wynik
          clients := state.clients.map Client.releaseRes }
  | awaitRes {wynik : Double} (here : state.server = .openingRes wynik)
      (free : ∀ client ∈ state.clients, client.holdsRes = false) :
      ServerMove state { state with server := .waitingRes wynik }
  | write {wynik : Double} {client : Client Double}
      (here : state.server = .writing wynik)
      (found : client ∈ state.clients) (met : client.holdsRes) :
      ServerMove state
        { state with
          responses := state.responses ++ [wynik], server := .closingRes }
  | brokenPipe {wynik : Double} (here : state.server = .writing wynik)
      (free : ∀ client ∈ state.clients, client.holdsRes = false) :
      ServerMove state { state with server := .killed }
  | closeRes (here : state.server = .closingRes) :
      ServerMove state { state with server := .openingReq }

/-- A step before the clearing. -/
inductive Move (state : State Double) :
    Action Double → State Double → List (Event Double) → Prop where
  | start (req : Interval Double) :
      Move state (.start req)
        { state with clients := state.clients ++ [.start req] } []
  | server {next : State Double} (moved : ServerMove state next) :
      Move state .server next []
  | client {index : Nat} {client after : Client Double}
      {service : Service Double} {events : List (Event Double)}
      (found : state.clients[index]? = some client)
      (moved : ClientMove index state.toService client service after events) :
      Move state (.client index)
        { toService := service, clients := state.clients.set index after }
        events
  | kill {index : Nat} {client : Client Double}
      (found : state.clients[index]? = some client)
      (living : client.point ≠ .ended) :
      Move state (.kill index)
        { state with
          clients := state.clients.set index (client.moveTo .ended) } []

theorem serverStep_move {state next : State Double}
    (taken : serverStep state = some next) : ServerMove state next := by
  unfold serverStep at taken
  split at taken
  case h_1 here =>
    cases taken
    by_cases held : ∃ client ∈ state.clients, client.holdsReq
    · have any := List.any_eq_true.mpr held
      obtain ⟨client, found, met⟩ := held
      rw [if_pos any]
      exact .openReq here found met
    · have free : ∀ client ∈ state.clients, client.holdsReq = false := by
        simpa using held
      have none : ¬ state.clients.any Client.holdsReq := by simpa using free
      rw [if_neg none, List.map_congr_left fun client found =>
        Client.releaseReq_of_free (free client found), List.map_id']
      exact .awaitReq here free
  case h_2 => simp at taken
  case h_3 here =>
    split at taken
    case h_1 req rest queued =>
      cases taken
      exact .read here queued
    case h_2 drained =>
      split at taken
      case isTrue => simp at taken
      case isFalse free =>
        cases taken
        exact .readEof here drained (by simpa using free)
  case h_4 req here =>
    cases taken
    exact .closeReq here
  case h_5 here =>
    cases taken
    exact .retry here
  case h_6 req x result here =>
    split at taken
    case isTrue inside =>
      cases taken
      exact .iterate here inside
    case isFalse outside =>
      cases taken
      exact .finish here outside
  case h_7 wynik here =>
    cases taken
    by_cases held : ∃ client ∈ state.clients, client.holdsRes
    · have any := List.any_eq_true.mpr held
      obtain ⟨client, found, met⟩ := held
      rw [if_pos any]
      exact .openRes here found met
    · have free : ∀ client ∈ state.clients, client.holdsRes = false := by
        simpa using held
      have none : ¬ state.clients.any Client.holdsRes := by simpa using free
      rw [if_neg none, List.map_congr_left fun client found =>
        Client.releaseRes_of_free (free client found), List.map_id']
      exact .awaitRes here free
  case h_8 => simp at taken
  case h_9 wynik here =>
    split at taken
    case isTrue held =>
      cases taken
      obtain ⟨client, found, met⟩ := List.any_eq_true.mp held
      exact .write here found met
    case isFalse free =>
      cases taken
      exact .brokenPipe here (by simpa using free)
  case h_10 here =>
    cases taken
    exact .closeRes here
  case h_11 => simp at taken

theorem act_move {state next : State Double} {action : Action Double}
    {events : List (Event Double)}
    (taken : act state action = some (next, events)) :
    Move state action next events := by
  cases action with
  | start req =>
      cases taken
      exact .start req
  | server =>
      simp only [act, Option.map_eq_some_iff, Prod.mk.injEq] at taken
      obtain ⟨_, moved, rfl, rfl⟩ := taken
      exact .server (serverStep_move moved)
  | client index =>
      obtain ⟨client, service, after, found, moved, rfl⟩ :=
        moveClient_eq_some taken
      exact .client found (clientStep_move moved)
  | kill index =>
      obtain ⟨client, service, after, found, killed, rfl⟩ :=
        moveClient_eq_some taken
      obtain ⟨living, rfl, rfl, rfl⟩ := killClient_eq_some_iff.mp killed
      exact .kill found living

theorem step_move {state next : State Double} {action : Action Double}
    {events : List (Event Double)}
    (taken : step state action = some (next, events)) :
    ∃ moved, Move state action moved events ∧ next = moved.settle := by
  simp only [step, Option.map_eq_some_iff, Prod.exists, Prod.mk.injEq] at taken
  obtain ⟨moved, _, acted, rfl, rfl⟩ := taken
  exact ⟨moved, act_move acted, rfl⟩

theorem step_run {state next : State Double} {action : Action Double}
    (taken : act state action = some (next, [])) :
    ∃ last, (system Double).Run state [] last ∧
      last.server = next.server ∧ last.clients = next.clients := by
  have stepped : step state action = some (next.settle, []) := by
    simp [step, taken]
  have single : (system Double).Run state ([] ++ []) next.settle :=
    .tail (.refl state) trivial stepped
  exact ⟨next.settle, single, rfl, rfl⟩

/-- When the loop ends the server has the value it ends with. -/
theorem run_openingRes {state : State Double} {req : Interval Double}
    {x result wynik : Double} {fuel : Nat}
    (here : state.server = .computing req x result)
    (ended : integrationLoop req.stop req.dx fuel x result = some wynik) :
    ∃ last, (system Double).Run state [] last ∧
      last.server = .openingRes wynik ∧ last.clients = state.clients := by
  induction fuel generalizing state x result with
  | zero => simp [integrationLoop] at ended
  | succ fuel inductionHypothesis =>
      by_cases inside : x < req.stop
      · have taken : act state .server = some ({ state with
            server := .computing req (x + req.dx)
              (result + function x * req.dx) }, []) := by
          simp [act, serverStep, here, inside]
        rw [integrationLoop_continue inside] at ended
        obtain ⟨middle, first, server, clients⟩ := step_run taken
        obtain ⟨last, rest, returned, same⟩ := inductionHypothesis server ended
        exact ⟨last, first.append rest, returned, same.trans clients⟩
      · have taken : act state .server =
            some ({ state with server := .openingRes result }, []) := by
          simp [act, serverStep, here, inside]
        rw [integrationLoop_finish inside] at ended
        cases ended
        exact step_run taken

end

end SysOp.Lab3
