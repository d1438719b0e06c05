import SysOp.Lab3.Origin

/-!
# One client at a time

Any number of clients may wait in `open` for the server; a client is `served`
from the return of its `open` on `FIFO_REQ` to its end.  While at most one
client is served and nobody is killed the two FIFOs never hold more than one
message, and it belongs to the client that is served: server and client go
through the phases of a `Turn` together.
-/

namespace SysOp.Lab3

open SysOp.Foundation

namespace ServerPoint

variable {Double : Type}

/-- Between two clients. -/
def rests : ServerPoint Double → Bool
  | .closingRes | .openingReq | .waitingReq => true
  | _ => false

end ServerPoint

namespace ClientPoint

/-- Between the write and the meeting on `FIFO_RES`. -/
def awaits : ClientPoint → Bool
  | .closingReq | .openingRes | .waitingRes => true
  | _ => false

/-- The server has met the client. -/
def served : ClientPoint → Bool
  | .openingReq | .waitingReq | .ended => false
  | _ => true

theorem served_of_holdsRes {point : ClientPoint} (held : point.holdsRes) :
    point.served := by
  cases point <;> first | rfl | cases held

theorem waitingReq_of_unserved {point : ClientPoint} (held : point.holdsReq)
    (unserved : point.served = false) : point = .waitingReq := by
  cases point <;> simp_all [holdsReq, served]

theorem waitingRes_of_awaits {point : ClientPoint} (held : point.holdsRes)
    (away : point.awaits) : point = .waitingRes := by
  cases point <;> simp_all [holdsRes, awaits]

theorem ne_of_awaits {point : ClientPoint} (away : point.awaits) :
    point ≠ .writing ∧ point ≠ .reading ∧ point ≠ .closingRes := by
  cases point <;> simp_all [awaits]

end ClientPoint

def Action.kills {Double : Type} : Action Double → Bool
  | .kill _ => true
  | _ => false

namespace State

variable {Double : Type}

/-- How many clients are served. -/
def served (state : State Double) : Nat :=
  census (fun client => if client.point.served then 1 else 0) state.clients

/-- No client but the one at position `index` is served. -/
def Alone (state : State Double) (index : Nat) : Prop :=
  ∀ position other, position ≠ index →
    state.clients[position]? = some other → other.point.served = false

end State

section

variable {Double : Type}

/-- Nobody is killed, and at most one client is past its `open`. -/
def OneByOne (state : State Double) (action : Action Double) : Prop :=
  action.kills = false ∧ state.served ≤ 1

instance (state : State Double) (action : Action Double) :
    Decidable (OneByOne state action) :=
  inferInstanceAs (Decidable (_ ∧ _))

/-- What the service holds while nobody is served. -/
@[mk_iff]
structure Vacant (service : Service Double) : Prop where
  rests : service.server.rests
  requests : service.requests = []
  responses : service.responses = []

/-- What it holds while one client is served, which is at `point`. -/
def Turn (service : Service Double) (point : ClientPoint) : Prop :=
  match service.server with
  | .reading =>
      service.responses = [] ∧
        (point = .writing ∧ service.requests = [] ∨
          point.awaits ∧ ∃ req, service.requests = [req])
  | .closingReq (some _) | .computing .. | .openingRes _ | .waitingRes _ =>
      point.awaits ∧ service.requests = [] ∧ service.responses = []
  | .writing _ =>
      point = .reading ∧ service.requests = [] ∧ service.responses = []
  | .closingRes | .openingReq | .waitingReq =>
      service.requests = [] ∧
        (point = .reading ∧ (∃ wynik, service.responses = [wynik]) ∨
          point = .closingRes ∧ service.responses = [])
  | .closingReq none | .killed => False

section Phases

variable {service : Service Double} {point : ClientPoint}

/-! A client that is served tells the phase by its point. -/

theorem Turn.of_writing (turn : Turn service .writing) :
    service.server = .reading ∧ service.requests = [] ∧
      service.responses = [] := by
  unfold Turn at turn
  split at turn <;> simp_all [ClientPoint.awaits]

theorem Turn.of_awaits {other : ClientPoint} (turn : Turn service point)
    (away : point.awaits) (also : other.awaits) : Turn service other := by
  obtain ⟨_, _, _⟩ := ClientPoint.ne_of_awaits away
  unfold Turn at turn ⊢
  split at turn <;> simp_all

theorem Turn.of_reading (turn : Turn service .reading) :
    service.requests = [] ∧
      ((∃ wynik, service.server = .writing wynik) ∧ service.responses = [] ∨
        service.server.rests ∧ ∃ wynik, service.responses = [wynik]) := by
  unfold Turn at turn
  split at turn <;> simp_all [ClientPoint.awaits, ServerPoint.rests]

theorem Turn.waitingRes_of_holdsRes (turn : Turn service point)
    (away : point.awaits) (met : service.server.holdsRes) :
    ∃ wynik, service.server = .waitingRes wynik := by
  obtain ⟨_, _, _⟩ := ClientPoint.ne_of_awaits away
  unfold Turn at turn
  split at turn <;> simp_all [ServerPoint.holdsRes]

theorem turn_closingRes_iff : Turn service .closingRes ↔ Vacant service := by
  rw [vacant_iff]
  unfold Turn
  split <;> simp_all [ClientPoint.awaits, ServerPoint.rests]

end Phases

theorem State.alone_of_served {state : State Double} {index : Nat}
    {client : Client Double} (single : state.served ≤ 1)
    (found : state.clients[index]? = some client)
    (served : client.point.served) : state.Alone index := by
  intro position other apart there
  have both := (add_le_census
    (fun client : Client Double => if client.point.served then 1 else 0)
    found there apart.symm).trans single
  by_contra still
  simp_all

theorem State.served_cases {state : State Double} (single : state.served ≤ 1) :
    (∀ client ∈ state.clients, client.point.served = false) ∨
      ∃ index client, state.clients[index]? = some client ∧
        client.point.served ∧ state.Alone index := by
  by_cases present : ∃ client ∈ state.clients, client.point.served
  · obtain ⟨client, member, served⟩ := present
    obtain ⟨index, found⟩ := List.getElem?_of_mem member
    exact .inr ⟨index, client, found, served,
      alone_of_served single found served⟩
  · exact .inl (by simpa using present)

theorem State.served_of_mem {state : State Double} {index : Nat}
    {client other : Client Double} (alone : state.Alone index)
    (found : state.clients[index]? = some client)
    (member : other ∈ state.clients) (served : other.point.served) :
    other = client := by
  obtain ⟨position, there⟩ := List.getElem?_of_mem member
  by_cases same : position = index
  · rw [same, found] at there
    exact (Option.some.inj there).symm
  · rw [alone position other same there] at served
    cases served

/-- Of the message there may be, one of the two has the FIFO open. -/
theorem Turn.settle_eq {state : State Double} {client : Client Double}
    (turn : Turn state.toService client.point)
    (member : client ∈ state.clients) : state.settle = state := by
  unfold Turn at turn
  split at turn
  case h_1 here =>
    exact State.settle_eq_self (.inr (by simp [State.reqHeld, here,
      ServerPoint.holdsReq])) (.inl turn.1)
  case h_7 | h_8 | h_9 =>
    apply State.settle_eq_self (.inl turn.1)
    rcases turn.2 with ⟨reading, _⟩ | ⟨_, unanswered⟩
    · have held : client.holdsRes := by
        rw [Client.holdsRes, reading]
        rfl
      exact .inr (by
        rw [State.resHeld, List.any_eq_true.mpr ⟨client, member, held⟩,
          Bool.or_true])
    · exact .inl unanswered
  case h_10 | h_11 => exact turn.elim
  all_goals exact State.settle_eq_self (.inl turn.2.1) (.inl turn.2.2)

/-- The server has opened `FIFO_REQ` for a client that waited there. -/
theorem Client.released_of_unserved {client : Client Double}
    (held : client.holdsReq)
    (unserved : client.point.served = false) :
    client.releaseReq = client.moveTo .writing := by
  rw [releaseReq, ClientPoint.waitingReq_of_unserved held unserved,
    ClientPoint.releaseReq]

variable [Add Double] [Mul Double] [Div Double] [LT Double]
  [DecidableLT Double] [OfNat Double 0] [OfNat Double 1] [OfNat Double 4]

/-- Of a state in which two clients are served nothing is said. -/
structure InTurn (state : State Double) : Prop where
  vacant : (∀ client ∈ state.clients, client.point.served = false) →
    Vacant state.toService
  turn : ∀ index client, state.clients[index]? = some client →
    client.point.served → state.Alone index →
      Turn state.toService client.point ∧
        state.From fun req => req = client.req

section InTurn

variable {state next : State Double} {index : Nat} {client : Client Double}

theorem InTurn.of_vacant
    (unserved : ∀ client ∈ state.clients, client.point.served = false)
    (vacant : Vacant state.toService) : InTurn state where
  vacant _ := vacant
  turn index client found served := by
    rw [unserved client (List.mem_of_getElem? found)] at served
    cases served

theorem InTurn.of_turn (found : state.clients[index]? = some client)
    (served : client.point.served)
    (turn : Turn state.toService client.point)
    (own : state.From fun req => req = client.req) : InTurn state where
  vacant unserved := by
    rw [unserved client (List.mem_of_getElem? found)] at served
    cases served
  turn position other there _ alone := by
    by_cases same : index = position
    · rw [← same, found] at there
      cases there
      exact ⟨turn, own⟩
    · rw [alone index client same found] at served
      cases served

theorem InTurn.of_crowd {position : Nat} {other : Client Double}
    (found : state.clients[index]? = some client)
    (served : client.point.served) (apart : position ≠ index)
    (there : state.clients[position]? = some other)
    (beside : other.point.served) : InTurn state where
  vacant unserved := by
    rw [unserved client (List.mem_of_getElem? found)] at served
    cases served
  turn third _ _ _ alone := by
    exfalso
    by_cases same : index = third
    · subst same
      rw [alone position other apart there] at beside
      cases beside
    · rw [alone index client same found] at served
      cases served

/-- A server that comes to `FIFO_REQ` while nobody is served. -/
theorem Vacant.serverMove (vacant : Vacant state.toService)
    (unserved : ∀ client ∈ state.clients, client.point.served = false)
    (taken : ServerMove state next) : InTurn next := by
  obtain ⟨rests, unasked, unanswered⟩ := vacant
  cases taken with
  | @openReq caller here member held =>
      constructor
      · intro vacated
        have served := vacated caller.releaseReq (List.mem_map_of_mem member)
        rw [Client.released_of_unserved held (unserved caller member)] at served
        cases served
      · intro index client found served _
        rw [List.getElem?_map, Option.map_eq_some_iff] at found
        obtain ⟨before, found, rfl⟩ := found
        have waited : before.point = .waitingReq := by
          by_contra other
          rw [Client.releaseReq_of_ne other,
            unserved before (List.mem_of_getElem? found)] at served
          cases served
        have written : before.releaseReq.point = .writing := by
          rw [Client.releaseReq, waited]
          rfl
        rw [written]
        refine ⟨⟨unanswered, .inl ⟨rfl, unasked⟩⟩, trivial, ?_, ?_⟩
        · simp [unasked]
        · simp [unanswered]
  | awaitReq here | closeRes here =>
      exact .of_vacant unserved ⟨rfl, unasked, unanswered⟩
  | read here | readEof here | closeReq here | retry here | iterate here
  | finish here | openRes here | awaitRes here | write here
  | brokenPipe here =>
      rw [here] at rests
      cases rests

/-- A server that comes to `FIFO_REQ` after an answer meets other clients
there, which makes two that are served, or waits. -/
theorem InTurn.openReq {caller : Client Double}
    (found : state.clients[index]? = some client)
    (served : client.point.served) (alone : state.Alone index)
    (passed : client.holdsReq = false)
    (member : caller ∈ state.clients) (held : caller.holdsReq) :
    InTurn { state with
      server := .reading
      clients := state.clients.map Client.releaseReq } := by
  obtain ⟨position, there⟩ := List.getElem?_of_mem member
  have apart : position ≠ index := by
    rintro rfl
    rw [found] at there
    cases there
    rw [passed] at held
    cases held
  have stays : (state.clients.map Client.releaseReq)[index]? = some client := by
    rw [List.getElem?_map, found, Option.map_some,
      Client.releaseReq_of_free passed]
  have joins : (state.clients.map Client.releaseReq)[position]? =
      some (caller.moveTo .writing) := by
    rw [List.getElem?_map, there, Option.map_some,
      Client.released_of_unserved held (alone position caller apart there)]
  exact .of_crowd stays served apart joins rfl

/-- Server and client go on together. -/
theorem Turn.serverMove (turn : Turn state.toService client.point)
    (own : state.From fun req => req = client.req)
    (found : state.clients[index]? = some client)
    (served : client.point.served) (alone : state.Alone index)
    (taken : ServerMove state next) : InTurn next := by
  have heard := taken.from own
  have on (clients : next.clients = state.clients)
      (continued : Turn next.toService client.point) : InTurn next :=
    .of_turn (by rw [clients, found]) served continued heard
  have member := List.mem_of_getElem? found
  cases taken with
  | openReq here caller held =>
      rw [Turn, here] at turn
      have passed : client.holdsReq = false := by
        rcases turn.2 with ⟨reading, _⟩ | ⟨closing, _⟩
        · rw [Client.holdsReq, reading]
          rfl
        · rw [Client.holdsReq, closing]
          rfl
      exact .openReq found served alone passed caller held
  | awaitReq here | closeRes here =>
      rw [Turn, here] at turn
      exact on rfl turn
  | read here queued =>
      rw [Turn, here, queued] at turn
      obtain ⟨unanswered, ⟨_, unasked⟩ | ⟨away, _, asked⟩⟩ := turn
      · cases unasked
      · cases asked
        exact on rfl ⟨away, rfl, unanswered⟩
  | readEof here drained free =>
      rw [Turn, here, drained] at turn
      obtain ⟨_, ⟨writing, _⟩ | ⟨_, _, asked⟩⟩ := turn
      · have idle := free client member
        rw [Client.holdsReq, writing] at idle
        cases idle
      · cases asked
  | closeReq here | iterate here | finish here | awaitRes here =>
      rw [Turn, here] at turn
      exact on rfl turn
  | retry here =>
      rw [Turn, here] at turn
      exact turn.elim
  | openRes here caller held =>
      rw [Turn, here] at turn
      rw [State.served_of_mem alone found caller
        (ClientPoint.served_of_holdsRes held)] at held
      have waited : client.point = .waitingRes :=
        ClientPoint.waitingRes_of_awaits held turn.1
      have opened : (state.clients.map Client.releaseRes)[index]? =
          some (client.moveTo .reading) := by
        rw [List.getElem?_map, found, Option.map_some, Client.releaseRes,
          waited, ClientPoint.releaseRes]
      exact .of_turn opened rfl ⟨rfl, turn.2⟩ heard
  | write here caller held =>
      rw [Turn, here] at turn
      obtain ⟨reading, unasked, unanswered⟩ := turn
      exact on rfl ⟨unasked, .inl ⟨reading, _, by rw [unanswered]; rfl⟩⟩
  | brokenPipe here free =>
      rw [Turn, here] at turn
      have idle := free client member
      rw [Client.holdsRes, turn.1] at idle
      cases idle

variable {after : Client Double} {service : Service Double}
  {events : List (Event Double)}

/-- A client that comes to `FIFO_REQ` while nobody is served. -/
theorem Vacant.clientMove (vacant : Vacant state.toService)
    (unserved : ∀ client ∈ state.clients, client.point.served = false)
    (found : state.clients[index]? = some client)
    (taken : ClientMove index state.toService client service after events) :
    InTurn
      { toService := service, clients := state.clients.set index after } := by
  have idle := unserved client (List.mem_of_getElem? found)
  obtain ⟨inside, _⟩ := List.getElem?_eq_some_iff.mp found
  obtain ⟨rests, unasked, unanswered⟩ := vacant
  cases taken with
  | openReq here met =>
      have waiting : state.server = .waitingReq := by
        cases server : state.server <;>
          simp_all [ServerPoint.rests, ServerPoint.holdsReq]
      apply InTurn.of_turn (List.getElem?_set_self inside) rfl
      · rw [waiting]
        exact ⟨unanswered, .inl ⟨rfl, unasked⟩⟩
      · rw [waiting]
        refine ⟨trivial, ?_, ?_⟩
        · simp [unasked]
        · simp [unanswered]
  | awaitReq here =>
      refine .of_vacant ?_ ⟨rests, unasked, unanswered⟩
      intro other member
      rcases List.mem_or_eq_of_mem_set member with old | rfl
      · exact unserved other old
      · rfl
  | write here | brokenPipe here | closeReq here | openRes here
  | awaitRes here | read here | readEof here | closeRes here =>
      rw [here] at idle
      cases idle

/-- The client that is served goes on. -/
theorem Turn.clientMove (turn : Turn state.toService client.point)
    (own : state.From fun req => req = client.req)
    (found : state.clients[index]? = some client)
    (served : client.point.served) (alone : state.Alone index)
    (taken : ClientMove index state.toService client service after events) :
    InTurn
      { toService := service, clients := state.clients.set index after } := by
  obtain ⟨inside, _⟩ := List.getElem?_eq_some_iff.mp found
  have there : (state.clients.set index after)[index]? = some after :=
    List.getElem?_set_self inside
  have heard (same : ∀ i req, .wrote i req ∈ events → req = client.req) :
      service.From fun req => req = client.req := taken.from own same
  cases taken with
  | openReq here | awaitReq here =>
      rw [here] at served
      cases served
  | write here met =>
      rw [here] at turn
      obtain ⟨reading, unasked, unanswered⟩ := turn.of_writing
      refine .of_turn there rfl ?_ (heard (by simp))
      rw [Turn, reading, unasked]
      exact ⟨unanswered, .inr ⟨rfl, _, rfl⟩⟩
  | brokenPipe here free =>
      rw [here] at turn
      rw [turn.of_writing.1] at free
      cases free
  | closeReq here | awaitRes here =>
      rw [here] at turn
      exact .of_turn there rfl (turn.of_awaits rfl rfl) (heard (by simp))
  | openRes here met =>
      rw [here] at turn
      obtain ⟨wynik, waiting⟩ := turn.waitingRes_of_holdsRes rfl met
      rw [Turn, waiting] at turn
      refine .of_turn there rfl ?_ (heard (by simp))
      rw [waiting]
      exact ⟨rfl, turn.2⟩
  | read here queued =>
      rw [here] at turn
      obtain ⟨unasked, ⟨_, unanswered⟩ | ⟨rests, wynik, answered⟩⟩ :=
        turn.of_reading
      · rw [queued] at unanswered
        cases unanswered
      · rw [queued] at answered
        cases answered
        exact .of_turn there rfl (turn_closingRes_iff.mpr ⟨rests, unasked, rfl⟩)
          (heard (by simp))
  | readEof here drained free =>
      rw [here] at turn
      obtain ⟨_, ⟨⟨_, writing⟩, _⟩ | ⟨_, _, answered⟩⟩ := turn.of_reading
      · rw [writing] at free
        cases free
      · rw [drained] at answered
        cases answered
  | closeRes here =>
      rw [here] at turn
      refine .of_vacant ?_ (turn_closingRes_iff.mp turn)
      intro other member
      obtain ⟨position, found⟩ := List.getElem?_of_mem member
      rcases getElem?_set_cases found with ⟨_, rfl⟩ | ⟨apart, old⟩
      · rfl
      · exact alone position other apart old

/-- Beside the client that is served others may come, and then two are
served, or wait. -/
theorem Turn.beside {position : Nat} {other : Client Double}
    (turn : Turn state.toService client.point)
    (own : state.From fun req => req = client.req)
    (found : state.clients[index]? = some client)
    (served : client.point.served) (apart : position ≠ index)
    (there : state.clients[position]? = some other)
    (unserved : other.point.served = false)
    (taken : ClientMove position state.toService other service after events) :
    InTurn
      { toService := service, clients := state.clients.set position after } := by
  obtain ⟨inside, _⟩ := List.getElem?_eq_some_iff.mp there
  have stays : (state.clients.set position after)[index]? = some client := by
    rw [List.getElem?_set_ne apart, found]
  cases taken with
  | openReq =>
      exact .of_crowd stays served apart (List.getElem?_set_self inside) rfl
  | awaitReq => exact .of_turn stays served turn own
  | write here | brokenPipe here | closeReq here | openRes here
  | awaitRes here | read here | readEof here | closeRes here =>
      rw [here] at unserved
      cases unserved

theorem InTurn.settle (inTurn : InTurn state) : InTurn state.settle where
  vacant unserved := by
    have vacant := inTurn.vacant unserved
    rw [State.settle_eq_self (.inl vacant.requests) (.inl vacant.responses)]
    exact vacant
  turn index client found served alone := by
    have turn := inTurn.turn index client found served alone
    rw [turn.1.settle_eq (List.mem_of_getElem? found)]
    exact turn

theorem InTurn.kept {action : Action Double} (inTurn : InTurn state)
    (permitted : OneByOne state action)
    (taken : Move state action next events) : InTurn next := by
  obtain ⟨spared, single⟩ := permitted
  rcases State.served_cases single with
    unserved | ⟨index, client, found, served, alone⟩
  · have vacant := inTurn.vacant unserved
    cases taken with
    | start req =>
        refine .of_vacant ?_ vacant
        intro client member
        rcases List.mem_append.mp member with old | new
        · exact unserved client old
        · rw [List.mem_singleton.mp new]
          rfl
    | server moved => exact vacant.serverMove unserved moved
    | client found moved => exact vacant.clientMove unserved found moved
    | kill => cases spared
  · obtain ⟨turn, own⟩ := inTurn.turn index client found served alone
    cases taken with
    | start req =>
        obtain ⟨inside, _⟩ := List.getElem?_eq_some_iff.mp found
        have stays : (state.clients ++ [.start req])[index]? = some client := by
          rw [List.getElem?_append_left inside, found]
        exact .of_turn stays served turn own
    | server moved => exact turn.serverMove own found served alone moved
    | @client mover other after _ _ there moved =>
        by_cases same : mover = index
        · subst same
          rw [found] at there
          cases there
          exact turn.clientMove own found served alone moved
        · exact turn.beside own found served same there
            (alone mover other same there) moved
    | kill => cases spared

end InTurn

/-- While clients are served one by one, each finds its own answer. -/
theorem run_inTurn {trace : List (Event Double)} {state : State Double}
    (steps : (system Double).RunWithin OneByOne initial trace state) :
    InTurn state := by
  apply steps.invariant InTurn
  · exact .of_vacant (by simp [initial]) ⟨rfl, rfl, rfl⟩
  · intro state action next events inTurn permitted taken
    obtain ⟨moved, move, rfl⟩ := step_move taken
    exact (inTurn.kept permitted move).settle

end

end SysOp.Lab3
