import SysOp.Lab3.Turns
import Mathlib.Data.Rat.Defs

/-!
# Whose answer a client prints

A client that is served alone finds its own answer, whoever waits in `open`
meanwhile, as long as this was so of all clients before it.

Whatever others did to each other before, a client also has the service to
itself when no other is `engaged`: between its call of `open` on `FIFO_REQ`
and its end.  The server is then idle when the client comes, or has lost all
that was meant for others, and from the moment both hold `FIFO_REQ` everything
in the service comes from this client.

Two clients served at once may print each other's answers.
-/

namespace SysOp.Lab3

open SysOp.Foundation

def ServerPoint.receives {Double : Type} : ServerPoint Double → Bool
  | .reading | .closingReq _ => true
  | _ => false

namespace ClientPoint

/-- In the service, with `FIFO_RES` still to be opened by the server. -/
def expects : ClientPoint → Bool
  | .writing | .closingReq | .openingRes | .waitingRes => true
  | _ => false

def engaged : ClientPoint → Bool
  | .openingReq | .ended => false
  | _ => true

end ClientPoint

namespace State

variable {Double : Type}

def engaged (state : State Double) (index : Nat) : Bool :=
  state.clients[index]?.any fun client => client.point.engaged

def othersEngaged (state : State Double) (index : Nat) : Bool :=
  (state.clients.eraseIdx index).any fun client => client.point.engaged

end State

section

variable {Double : Type}

/-- Nobody is killed, and a client keeps the service to itself. -/
def Undisturbed (index : Nat) (state : State Double)
    (action : Action Double) : Prop :=
  action.kills = false ∧
    (state.engaged index → state.othersEngaged index = false)

instance (index : Nat) (state : State Double) (action : Action Double) :
    Decidable (Undisturbed index state action) :=
  inferInstanceAs (Decidable (_ ∧ (_ → _)))

/-- While nobody is killed a server that reads is met by a client that still
needs it, and a server that waits finds `FIFO_REQ` empty. -/
structure Orderly (state : State Double) : Prop where
  unheldReq : state.reqHeld = false → state.requests = []
  unheldRes : state.resHeld = false → state.responses = []
  met : state.server.receives →
    ∃ client ∈ state.clients, client.point.expects
  vacant : state.server = .waitingReq → state.requests = [] ∧
    ∀ client ∈ state.clients, client.holdsReq = false

theorem ClientMove.met {index : Nat} {service after : Service Double}
    {client moved : Client Double} {events : List (Event Double)}
    (taken : ClientMove index service client after moved events)
    (receives : after.server.receives) :
    moved.point.expects ∨
      service.server.receives ∧
        (client.point.expects → moved.point.expects) := by
  cases taken with
  | openReq | write | closeReq | awaitRes => exact .inl rfl
  | awaitReq here | read here | readEof here | closeRes here =>
      refine .inr ⟨receives, ?_⟩
      intro expects
      rw [here] at expects
      cases expects
  | brokenPipe here free =>
      exfalso
      cases server : service.server <;>
        simp_all [ServerPoint.receives, ServerPoint.holdsReq]
  | openRes here held =>
      exfalso
      cases server : service.server <;>
        simp_all [ServerPoint.receives, ServerPoint.holdsRes,
          ServerPoint.releaseRes]

theorem ClientMove.vacant {index : Nat} {service after : Service Double}
    {client moved : Client Double} {events : List (Event Double)}
    (taken : ClientMove index service client after moved events)
    (waiting : after.server = .waitingReq)
    (free : service.server = .waitingReq → client.holdsReq = false) :
    service.server = .waitingReq ∧ after.requests = service.requests ∧
      moved.holdsReq = false := by
  cases taken with
  | openReq | openRes =>
      exfalso
      cases server : service.server <;>
        simp_all [ServerPoint.releaseReq, ServerPoint.releaseRes,
          ServerPoint.holdsRes]
  | awaitReq _ unmet =>
      rw [waiting] at unmet
      cases unmet
  | write here | brokenPipe here | closeReq here =>
      have idle := free waiting
      rw [Client.holdsReq, here] at idle
      cases idle
  | awaitRes | read | readEof | closeRes => exact ⟨waiting, rfl, rfl⟩

section Alone

variable {index : Nat} {state : State Double} {client : Client Double}

theorem State.othersEngaged_eq_false_iff :
    state.othersEngaged index = false ↔ ∀ position other,
      position ≠ index → state.clients[position]? = some other →
        other.point.engaged = false := by
  simp only [othersEngaged, List.any_eq_false, List.mem_eraseIdx_iff_getElem?,
    Bool.not_eq_true]
  constructor
  · intro idle position other apart found
    exact idle other ⟨position, apart, found⟩
  · rintro idle other ⟨position, apart, found⟩
    exact idle position other apart found

/-- Beside a client that keeps the service to itself nobody holds anything. -/
theorem State.free_of_alone (holds : Client Double → Bool)
    (alone : state.othersEngaged index = false)
    (found : state.clients[index]? = some client)
    (idle : ∀ other : Client Double,
      other.point.engaged = false → holds other = false)
    (own : holds client = false) :
    ∀ other ∈ state.clients, holds other = false := by
  intro other member
  obtain ⟨position, there⟩ := List.getElem?_of_mem member
  by_cases same : position = index
  · rw [same, found] at there
    cases there
    exact own
  · exact idle other
      (othersEngaged_eq_false_iff.mp alone position other same there)

theorem Client.holdsReq_of_idle {other : Client Double}
    (idle : other.point.engaged = false) : other.holdsReq = false := by
  cases point : other.point <;>
    simp_all [holdsReq, ClientPoint.engaged, ClientPoint.holdsReq]

theorem Client.holdsRes_of_idle {other : Client Double}
    (idle : other.point.engaged = false) : other.holdsRes = false := by
  cases point : other.point <;>
    simp_all [holdsRes, ClientPoint.engaged, ClientPoint.holdsRes]

theorem ClientPoint.expects_of_idle {point : ClientPoint}
    (idle : point.engaged = false) : point.expects = false := by
  cases point <;> simp_all [engaged, expects]

theorem State.othersEngaged_map {next : State Double}
    {release : Client Double → Client Double}
    (mapped : next.clients = state.clients.map release)
    (same : ∀ client, (release client).point.engaged = client.point.engaged) :
    next.othersEngaged index = state.othersEngaged index := by
  simp [othersEngaged, mapped, List.eraseIdx_map, List.any_map,
    Function.comp_def, same]

theorem Client.engaged_releaseReq (client : Client Double) :
    client.releaseReq.point.engaged = client.point.engaged := by
  obtain ⟨req, point⟩ := client
  cases point <;> rfl

theorem Client.engaged_releaseRes (client : Client Double) :
    client.releaseRes.point.engaged = client.point.engaged := by
  obtain ⟨req, point⟩ := client
  cases point <;> rfl

/-- What nobody has open is empty. -/
theorem Orderly.responses_of_alone (orderly : Orderly state)
    (alone : state.othersEngaged index = false)
    (found : state.clients[index]? = some client)
    (away : state.server.holdsRes = false) (own : client.holdsRes = false) :
    state.responses = [] := by
  apply orderly.unheldRes
  have free := State.free_of_alone Client.holdsRes alone found
    (fun _ => Client.holdsRes_of_idle) own
  simpa [State.resHeld, away] using free

theorem Orderly.requests_of_alone (orderly : Orderly state)
    (alone : state.othersEngaged index = false)
    (found : state.clients[index]? = some client)
    (away : state.server.holdsReq = false) (own : client.holdsReq = false) :
    state.requests = [] := by
  apply orderly.unheldReq
  have free := State.free_of_alone Client.holdsReq alone found
    (fun _ => Client.holdsReq_of_idle) own
  simpa [State.reqHeld, away] using free

/-- The server has not met the requests of others. -/
theorem Orderly.waitingReq_of_alone
    (orderly : Orderly state)
    (alone : state.othersEngaged index = false)
    (found : state.clients[index]? = some client)
    (away : client.point = .openingReq) (met : state.server.holdsReq) :
    state.server = .waitingReq := by
  have free := State.free_of_alone
    (fun other : Client Double => other.point.expects) alone found
    (fun _ idle => ClientPoint.expects_of_idle idle) (by rw [away]; rfl)
  have idle : ¬ state.server.receives := by
    intro receives
    obtain ⟨other, member, expects⟩ := orderly.met receives
    rw [free other member] at expects
    cases expects
  cases server : state.server <;>
    simp_all [ServerPoint.holdsReq, ServerPoint.receives]

theorem ClientMove.engages {service after : Service Double}
    {moved : Client Double} {events : List (Event Double)}
    (taken : ClientMove index service client after moved events) :
    client.point.engaged ∨ moved.point.engaged := by
  cases taken with
  | openReq | awaitReq => exact .inr rfl
  | write here | brokenPipe here | closeReq here | openRes here
  | awaitRes here | read here | readEof here | closeRes here =>
      exact .inl (by rw [here]; rfl)

end Alone

variable [Add Double] [Mul Double] [Div Double] [LT Double]
  [OfNat Double 0] [OfNat Double 1] [OfNat Double 4]

theorem ServerMove.met {state next : State Double} (orderly : Orderly state)
    (taken : ServerMove state next) (receives : next.server.receives) :
    ∃ client ∈ next.clients, client.point.expects := by
  cases taken with
  | @openReq client here found held =>
      refine ⟨client.releaseReq, List.mem_map_of_mem found, ?_⟩
      obtain ⟨req, point⟩ := client
      cases point <;> first | rfl | cases held
  | read here | readEof here =>
      apply orderly.met
      rw [here]
      rfl
  | _ => cases receives

/-- A server that does not come to `FIFO_REQ` meets nobody there. -/
theorem ServerMove.unmet {state next : State Double}
    (taken : ServerMove state next) (away : state.server ≠ .openingReq)
    (unmet : state.server.holdsReq = false ∧ state.requests = []) :
    next.server.holdsReq = false ∧ next.requests = [] := by
  cases taken with
  | openReq here => exact absurd here away
  | awaitReq here => exact absurd here away
  | read here | readEof here | closeReq here | retry here =>
      rw [here] at unmet
      cases unmet.1
  | _ => exact ⟨rfl, unmet.2⟩

theorem ServerMove.vacant {state next : State Double}
    (orderly : Orderly state) (taken : ServerMove state next)
    (waiting : next.server = .waitingReq) :
    next.requests = [] ∧ ∀ client ∈ next.clients, client.holdsReq = false := by
  cases taken with
  | awaitReq here free =>
      refine ⟨orderly.unheldReq ?_, free⟩
      simpa [State.reqHeld, here, ServerPoint.holdsReq] using free
  | _ => cases waiting

theorem Orderly.next {state next : State Double} {action : Action Double}
    {events : List (Event Double)} (orderly : Orderly state)
    (taken : Move state action next events) (spared : action.kills = false) :
    Orderly next.settle where
  unheldReq := by
    intro free
    apply State.settle_unheldReq
    exact free
  unheldRes := by
    intro free
    apply State.settle_unheldRes
    exact free
  met := by
    rw [State.settle_server, State.settle_clients]
    intro receives
    cases taken with
    | start req =>
        obtain ⟨client, member, expects⟩ := orderly.met receives
        exact ⟨client, List.mem_append_left _ member, expects⟩
    | server moved => exact moved.met orderly receives
    | @client _ client after _ _ found moved =>
        rcases moved.met receives with expects | ⟨received, kept⟩
        · obtain ⟨inside, _⟩ := List.getElem?_eq_some_iff.mp found
          exact ⟨after,
            List.mem_of_getElem? (List.getElem?_set_self inside), expects⟩
        · exact exists_mem_set found kept (orderly.met received)
    | kill => cases spared
  vacant := by
    intro waiting
    have vacated : next.requests = [] ∧
        ∀ client ∈ next.clients, client.holdsReq = false := by
      cases taken with
      | start req =>
          obtain ⟨empty, free⟩ := orderly.vacant waiting
          refine ⟨empty, ?_⟩
          intro client member
          rcases List.mem_append.mp member with old | new
          · exact free client old
          · rw [List.mem_singleton.mp new]
            rfl
      | server moved => exact moved.vacant orderly waiting
      | client found moved =>
          obtain ⟨waited, unused, idle⟩ := moved.vacant waiting fun waited =>
            (orderly.vacant waited).2 _ (List.mem_of_getElem? found)
          obtain ⟨empty, free⟩ := orderly.vacant waited
          refine ⟨unused.trans empty, ?_⟩
          intro client member
          rcases List.mem_or_eq_of_mem_set member with old | rfl
          · exact free client old
          · exact idle
      | kill => cases spared
    exact ⟨State.settle_requests_of_nil vacated.1, vacated.2⟩

variable [DecidableLT Double]

/-- What a client finds that keeps the service to itself. -/
def Own (index : Nat) (state : State Double) : Prop :=
  ∀ client, state.clients[index]? = some client →
    state.othersEngaged index = false →
      (client.point = .waitingReq →
        state.server.holdsReq = false ∧ state.requests = []) ∧
      (client.point.served → state.From fun req => req = client.req)

theorem Own.settle {index : Nat} {state : State Double}
    (own : Own index state) : Own index state.settle := by
  intro client found alone
  obtain ⟨unmet, mine⟩ := own client found alone
  constructor
  · intro waiting
    exact ⟨(unmet waiting).1, State.settle_requests_of_nil (unmet waiting).2⟩
  · intro served
    exact (mine served).settle

section Own

variable {index : Nat} {state next : State Double}

theorem Own.server (orderly : Orderly state) (own : Own index state)
    (taken : ServerMove state next) : Own index next := by
  intro client found alone
  have heard : ∀ asked, state.From asked → next.From asked :=
    fun _ held => taken.from held
  have stay (same : next.clients = state.clients)
      (away : client.point = .waitingReq → state.server ≠ .openingReq) :
      (client.point = .waitingReq →
        next.server.holdsReq = false ∧ next.requests = []) ∧
      (client.point.served → next.From fun req => req = client.req) := by
    rw [same] at found
    rw [State.othersEngaged, same] at alone
    obtain ⟨unmet, mine⟩ := own client found alone
    constructor
    · intro waiting
      exact taken.unmet (away waiting) (unmet waiting)
    · intro served
      exact heard _ (mine served)
  cases taken with
  | openReq here member held =>
      rw [List.getElem?_map, Option.map_eq_some_iff] at found
      have alone : state.othersEngaged index = false :=
        (State.othersEngaged_map rfl Client.engaged_releaseReq).symm.trans alone
      obtain ⟨before, found, rfl⟩ := found
      obtain ⟨unmet, mine⟩ := own before found alone
      by_cases waited : before.point = .waitingReq
      · have unread : state.responses = [] :=
          orderly.responses_of_alone alone found (by rw [here]; rfl)
            (by rw [Client.holdsRes, waited]; rfl)
        refine ⟨?_, fun _ => ⟨trivial, ?_, ?_⟩⟩
        · simp [Client.releaseReq, waited, ClientPoint.releaseReq,
            Client.moveTo]
        · simp [(unmet waited).2]
        · simp [unread]
      · rw [Client.releaseReq_of_ne waited]
        exact ⟨fun waiting => absurd waiting waited,
          fun served => heard _ (mine served)⟩
  | openRes here member held =>
      rw [List.getElem?_map, Option.map_eq_some_iff] at found
      have alone : state.othersEngaged index = false :=
        (State.othersEngaged_map rfl Client.engaged_releaseRes).symm.trans alone
      obtain ⟨before, found, rfl⟩ := found
      obtain ⟨unmet, mine⟩ := own before found alone
      by_cases waited : before.point = .waitingRes
      · rw [waited] at mine
        refine ⟨?_, fun _ => heard _ (mine rfl)⟩
        simp [Client.releaseRes, waited, ClientPoint.releaseRes, Client.moveTo]
      · rw [Client.releaseRes_of_ne waited]
        exact ⟨fun waiting => ⟨rfl, (unmet waiting).2⟩,
          fun served => heard _ (mine served)⟩
  | awaitReq here free =>
      apply stay rfl
      intro waiting
      have idle := free client (List.mem_of_getElem? found)
      rw [Client.holdsReq, waiting] at idle
      cases idle
  | _ here =>
      apply stay rfl
      intro waiting
      simp [here]

theorem Own.client_self {client after : Client Double}
    {service : Service Double} {events : List (Event Double)}
    (orderly : Orderly state) (own : Own index state)
    (found : state.clients[index]? = some client)
    (taken : ClientMove index state.toService client service after events) :
    Own index
      { toService := service, clients := state.clients.set index after } := by
  intro moved there alone
  obtain ⟨inside, _⟩ := List.getElem?_eq_some_iff.mp found
  rw [List.getElem?_set_self inside] at there
  cases there
  rw [State.othersEngaged, List.eraseIdx_set_eq] at alone
  obtain ⟨_, mine⟩ := own client found alone
  have heard (same : ∀ i req, .wrote i req ∈ events → req = client.req)
      (served : client.point.served) :
      service.From fun req => req = client.req := taken.from (mine served) same
  cases taken with
  | openReq here met =>
      have waiting := orderly.waitingReq_of_alone alone found here met
      have unread : state.responses = [] :=
        orderly.responses_of_alone alone found (by rw [waiting]; rfl)
          (by rw [Client.holdsRes, here]; rfl)
      refine ⟨by simp [Client.moveTo], fun _ => ⟨?_, ?_, ?_⟩⟩
      · rw [waiting]
        trivial
      · simp [(orderly.vacant waiting).1]
      · simp [unread]
  | awaitReq here free =>
      have unasked : state.requests = [] :=
        orderly.requests_of_alone alone found free
          (by rw [Client.holdsReq, here]; rfl)
      exact ⟨fun _ => ⟨free, unasked⟩, by
        simp [Client.moveTo, ClientPoint.served]⟩
  | write here met =>
      refine ⟨by simp [Client.moveTo], fun _ => heard ?_ (by rw [here]; rfl)⟩
      simp
  | brokenPipe here | closeRes here =>
      exact ⟨by simp [Client.moveTo], by
        simp [Client.moveTo, ClientPoint.served]⟩
  | closeReq here | openRes here | awaitRes here | readEof here =>
      exact ⟨by simp [Client.moveTo], fun _ =>
        heard (by simp) (by rw [here]; rfl)⟩
  | read here queued =>
      exact ⟨by simp [Client.moveTo], fun _ =>
        heard (by simp) (by rw [here]; rfl)⟩

theorem Own.kept {action : Action Double} {events : List (Event Double)}
    (orderly : Orderly state) (own : Own index state)
    (undisturbed : Undisturbed index state action)
    (taken : Move state action next events) : Own index next := by
  cases taken with
  | start req =>
      intro client found alone
      rcases getElem?_append_cases found with old | ⟨_, rfl⟩
      · have idle : state.othersEngaged index = false := by
          rw [State.othersEngaged_eq_false_iff] at alone ⊢
          intro position other apart there
          apply alone position other apart
          rw [List.getElem?_append_left
            (List.getElem?_eq_some_iff.mp there).choose]
          exact there
        exact own client old idle
      · exact ⟨nofun, nofun⟩
  | server moved => exact own.server orderly moved
  | @client mover client after service _ there moved =>
      by_cases self : mover = index
      · subst self
        exact own.client_self orderly there moved
      · intro other found alone
        rw [List.getElem?_set_ne self] at found
        have unmoved := State.othersEngaged_eq_false_iff.mp alone
        cases engaged : other.point.engaged with
        | false =>
            refine ⟨fun waiting => ?_, fun served => ?_⟩
            · rw [waiting] at engaged
              cases engaged
            · cases point : other.point <;>
                simp_all [ClientPoint.served, ClientPoint.engaged]
        | true =>
            exfalso
            have before := State.othersEngaged_eq_false_iff.mp
              (undisturbed.2 (by simp [State.engaged, found, engaged]))
              mover client self there
            have inside := (List.getElem?_eq_some_iff.mp there).choose
            have later := unmoved mover after self
              (List.getElem?_set_self inside)
            rcases moved.engages with was | is
            · rw [was] at before
              cases before
            · rw [is] at later
              cases later
  | kill => exact absurd undisturbed.1 (by simp [Action.kills])

end Own

theorem run_own {index : Nat} {trace : List (Event Double)}
    {state : State Double}
    (steps : (system Double).RunWithin (Undisturbed index) initial trace
      state) :
    Own index state := by
  have both : Orderly state ∧ Own index state := by
    apply steps.invariant fun state => Orderly state ∧ Own index state
    · refine ⟨⟨fun _ => rfl, fun _ => rfl, nofun, nofun⟩, ?_⟩
      simp [Own, initial]
    · rintro state action next events ⟨orderly, own⟩ undisturbed taken
      obtain ⟨moved, move, rfl⟩ := step_move taken
      exact ⟨orderly.next move undisturbed.1,
        (own.kept orderly undisturbed move).settle⟩
  exact both.2

/-- A client prints the integral of an interval some client has written.  It
is its own when all clients are served one by one, and when no other client is
engaged while this one is. -/
theorem printed_integral {trace : List (Event Double)}
    {state next : State Double} {action : Action Double}
    {events : List (Event Double)} {index : Nat} {wynik : Double}
    (steps : (system Double).Run initial trace state)
    (taken : step state action = some (next, events))
    (printed : .printed index wynik ∈ events) :
    Answers (Written trace) wynik ∧
      ((system Double).RunWithin OneByOne initial trace state ∧
          OneByOne state action ∨
        (system Double).RunWithin (Undisturbed index) initial trace state ∧
          Undisturbed index state action →
        ∃ client, state.clients[index]? = some client ∧
          .wrote index client.req ∈ trace ∧ client.req.Integral wynik) := by
  obtain ⟨moved, move, rfl⟩ := step_move taken
  obtain ⟨queued, client, found, reading⟩ := move.printed printed
  refine ⟨(run_from steps).responses wynik queued, ?_⟩
  intro apart
  have mine : state.From fun req => req = client.req := by
    rcases apart with ⟨turns, _, single⟩ | ⟨alone, undisturbed⟩
    · have served : client.point.served := by rw [reading]; rfl
      exact ((run_inTurn turns).turn index client found served
        (State.alone_of_served single found served)).2
    · have idle : state.othersEngaged index = false :=
        undisturbed.2 (by simp [State.engaged, found, reading,
          ClientPoint.engaged])
      exact (run_own alone client found idle).2 (by rw [reading]; rfl)
  obtain ⟨_, rfl, integral⟩ := mine.responses wynik queued
  refine ⟨client, found, run_asked steps index client found ?_, integral⟩
  rw [reading]
  rfl

end

/-- Client 1 waits in `open` while client 0 is served, and is served then. -/
def waiting : List (Action Rat) :=
  [.start ⟨0, 1, 1⟩, .start ⟨0, 2, 1⟩, .client 0, .server, .client 0,
    .server, .server, .client 1, .client 0] ++ List.replicate 2 .server ++
    [.client 0] ++ List.replicate 2 .server ++ List.replicate 2 (.client 0) ++
    List.replicate 2 .server ++ [.client 1, .server, .server, .client 1] ++
    List.replicate 3 .server ++ [.client 1, .server, .server]

theorem printed_integral_waiting :
    ∃ trace, .printed 0 4 ∈ trace ∧ Answers (Written trace) (6 : Rat) ∧
      ∃ req : Interval Rat, .wrote 1 req ∈ trace ∧ req.Integral 6 := by
  have ready :
      ((system Rat).execute OneByOne initial waiting).map
        (fun (state, trace) => ((step state (.client 1)).map Prod.snd,
          decide (OneByOne state (.client 1)),
          decide (.printed 0 4 ∈ trace))) =
        some (some [.printed 1 6], true, true) := by decide +kernel
  obtain ⟨⟨state, trace⟩, executed, ready⟩ := Option.map_eq_some_iff.mp ready
  simp only [Prod.mk.injEq, Option.map_eq_some_iff, decide_eq_true_eq,
    Prod.exists, exists_eq_right] at ready
  obtain ⟨⟨next, taken⟩, single, before⟩ := ready
  have steps := Machine.execute_runWithin executed
  obtain ⟨answers, own⟩ :=
    printed_integral steps.run taken (List.mem_singleton.mpr rfl)
  obtain ⟨client, _, wrote, integral⟩ := own (.inl ⟨steps, single⟩)
  exact ⟨trace, before, answers, client.req, wrote, integral⟩

/-- Two clients write while the server waits for one; the second reads the
answer to the first. -/
def overlapping : List (Action Rat) :=
  [.start ⟨0, 1, 1⟩, .start ⟨0, 2, 1⟩, .client 0, .client 1, .server,
    .client 0, .client 1, .server, .client 0, .client 1] ++
    List.replicate 4 .server ++ [.client 1, .server, .client 1]

theorem printed_other : ¬ ∀ {trace : List (Event Rat)} {state : State Rat}
    (index : Nat) (client : Client Rat) (wynik : Rat),
    (system Rat).RunWithin (fun _ action => action.kills = false) initial
      trace state →
    state.clients[index]? = some client → .printed index wynik ∈ trace →
    client.req.Integral wynik := by
  intro always
  have printed :
      ((system Rat).execute (fun _ action => action.kills = false) initial
        overlapping).map
        (fun (state, trace) => (decide (.printed 1 4 ∈ trace),
          state.clients[1]?.map Client.req)) =
        some (true, some ⟨0, 2, 1⟩) := by decide +kernel
  obtain ⟨⟨state, trace⟩, executed, printed⟩ :=
    Option.map_eq_some_iff.mp printed
  simp only [Prod.mk.injEq, decide_eq_true_eq,
    Option.map_eq_some_iff] at printed
  obtain ⟨printed, client, found, asked⟩ := printed
  have other := always 1 client 4 (Machine.execute_runWithin executed) found
    printed
  rw [asked] at other
  have own : (⟨0, 2, 1⟩ : Interval Rat).Integral 6 :=
    ⟨3, by decide +kernel⟩
  exact absurd (other.unique own) (by decide)

end SysOp.Lab3
