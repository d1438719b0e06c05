import SysOp.Lab3.Moves
import Mathlib.Data.Rat.Defs

/-!
# Interrupted clients

The server closes `FIFO_REQ` before it computes, and then opens `FIFO_RES`
for whoever comes.  Only clients that have written, and have not closed
`FIFO_RES` yet, can come or are there; when the last of them has gone nobody
ever comes, since all others need the server at `FIFO_REQ` first.

`Heeded` is the exact condition on a step that does not bring this about.
-/

namespace SysOp.Lab3

open SysOp.Foundation

/-- Between its close of `FIFO_REQ` and the end of its `open` of `FIFO_RES`. -/
def ServerPoint.answering {Double : Type} : ServerPoint Double → Bool
  | .computing .. | .openingRes _ | .waitingRes _ => true
  | _ => false

namespace State

variable {Double : Type}

def anyAsked (state : State Double) : Bool :=
  state.clients.any fun client => client.point.asked

def othersAsked (state : State Double) (index : Nat) : Bool :=
  (state.clients.eraseIdx index).any fun client => client.point.asked

/-- The server waits in `open` of `FIFO_RES`, and every client alive in
`open` of `FIFO_REQ`. -/
structure Stuck (state : State Double) : Prop where
  server : ∃ wynik, state.server = .waitingRes wynik
  clients : ∀ client ∈ state.clients,
    client.point = .waitingReq ∨ client.point = .ended

/-- The server has an answer for which nobody is left. -/
def Abandoned (state : State Double) : Prop :=
  state.server.answering ∧ state.anyAsked = false

/-- The client leaves `FIFO_RES` by its next step. -/
def leaves (state : State Double) (index : Nat) : Bool :=
  state.clients[index]?.any fun client => client.point = .closingRes

def asked (state : State Double) (index : Nat) : Bool :=
  state.clients[index]?.any fun client => client.point.asked

end State

section

variable {Double : Type}

/-- The server turns from `FIFO_REQ` to an answer only while some client has
asked and not left, and the last such client stays while it has an answer. -/
def Heeded (state : State Double) : Action Double → Prop
  | .start _ => True
  | .server =>
      match state.server with
      | .closingReq (some _) => state.anyAsked
      | _ => True
  | .client index =>
      state.server.answering → state.leaves index → state.othersAsked index
  | .kill index =>
      state.server.answering → state.asked index → state.othersAsked index

instance (state : State Double) (action : Action Double) :
    Decidable (Heeded state action) := by
  unfold Heeded
  split
  · infer_instance
  · split <;> infer_instance
  · infer_instance
  · infer_instance

theorem State.Stuck.abandoned {state : State Double} (stuck : state.Stuck) :
    state.Abandoned := by
  obtain ⟨⟨wynik, waiting⟩, blocked⟩ := stuck
  refine ⟨by rw [waiting]; rfl, ?_⟩
  simp only [anyAsked, List.any_eq_false]
  intro client member
  rcases blocked client member with point | point <;> simp [point, ClientPoint.asked]

theorem Client.asked_of_holdsRes {client : Client Double}
    (held : client.holdsRes) : client.point.asked := by
  obtain ⟨req, point⟩ := client
  cases point <;> first | rfl | cases held

section Step

variable {state next : State Double} {action : Action Double}
  {events : List (Event Double)}

theorem ClientMove.abandoned_iff {index : Nat} {client after : Client Double}
    {service : Service Double} (attended : ¬ state.Abandoned)
    (found : state.clients[index]? = some client)
    (taken : ClientMove index state.toService client service after events) :
    State.Abandoned
        { toService := service, clients := state.clients.set index after } ↔
      ¬ Heeded state (.client index) := by
  have before := any_eq found fun client => client.point.asked
  have later := any_set found (fun client => client.point.asked) after
  have leaves : state.leaves index = decide (client.point = .closingRes) := by
    simp [State.leaves, found]
  simp only [State.Abandoned, State.anyAsked, before, Bool.or_eq_false_iff,
    not_and] at attended
  simp only [State.Abandoned, State.anyAsked, later, Heeded, leaves,
    State.othersAsked, Bool.or_eq_false_iff]
  cases taken with
  | closeRes here => simp [here, Client.moveTo, ClientPoint.asked]
  | openReq here met =>
      cases server : state.server <;>
        simp_all [ServerPoint.holdsReq, ServerPoint.releaseReq,
          ServerPoint.answering]
  | openRes here met =>
      cases server : state.server <;>
        simp_all [ServerPoint.holdsRes, ServerPoint.releaseRes,
          ServerPoint.answering]
  | awaitReq here | brokenPipe here =>
      simpa [here, Client.moveTo, ClientPoint.asked] using attended
  | write here | closeReq here | awaitRes here | read here | readEof here =>
      simp [here, Client.moveTo, ClientPoint.asked]

theorem ClientMove.abandoned {index : Nat} {client after : Client Double}
    {service : Service Double} (lost : state.Abandoned)
    (found : state.clients[index]? = some client)
    (taken : ClientMove index state.toService client service after events) :
    State.Abandoned
      { toService := service, clients := state.clients.set index after } := by
  obtain ⟨answering, unasked⟩ := lost
  rw [State.anyAsked, any_eq found, Bool.or_eq_false_iff] at unasked
  have later := any_set found (fun client => client.point.asked) after
  rw [State.Abandoned, State.anyAsked, later, unasked.2, Bool.or_false]
  cases taken with
  | awaitReq | brokenPipe => exact ⟨answering, rfl⟩
  | openReq here met | write here met =>
      cases server : state.server <;>
        simp_all [ServerPoint.holdsReq, ServerPoint.answering]
  | closeReq here | openRes here | awaitRes here | read here | readEof here
  | closeRes here =>
      rw [here] at unasked
      cases unasked.1

variable [Add Double] [Mul Double] [Div Double] [LT Double]
  [OfNat Double 0] [OfNat Double 1] [OfNat Double 4]

theorem ServerMove.abandoned_iff (attended : ¬ state.Abandoned)
    (taken : ServerMove state next) :
    next.Abandoned ↔ ¬ Heeded state .server := by
  cases taken with
  | closeReq here =>
      simp [State.Abandoned, Heeded, here, ServerPoint.answering,
        State.anyAsked]
  | iterate here | finish here | awaitRes here =>
      have asked : state.anyAsked := by
        simpa [State.Abandoned, here, ServerPoint.answering] using attended
      rw [State.anyAsked] at asked
      simpa [State.Abandoned, State.anyAsked, Heeded, here,
        ServerPoint.answering] using asked
  | openReq here | awaitReq here | read here | readEof here | retry here
  | openRes here | write here | brokenPipe here | closeRes here =>
      simp [State.Abandoned, Heeded, here, ServerPoint.answering]

theorem Move.abandoned_iff (attended : ¬ state.Abandoned)
    (taken : Move state action next events) :
    next.Abandoned ↔ ¬ Heeded state action := by
  cases taken with
  | start req =>
      simpa [State.Abandoned, State.anyAsked, Heeded, Client.start,
        ClientPoint.asked] using attended
  | server moved => exact moved.abandoned_iff attended
  | client found moved => exact moved.abandoned_iff attended found
  | @kill index client found living =>
      have before := any_eq found fun client => client.point.asked
      have later := any_set found (fun client => client.point.asked)
        (client.moveTo .ended)
      have asked : state.asked index = client.point.asked := by
        simp [State.asked, found]
      simp only [State.Abandoned, State.anyAsked, before,
        Bool.or_eq_false_iff, not_and] at attended
      simp only [State.Abandoned, State.anyAsked, later, Heeded, asked,
        State.othersAsked, Bool.or_eq_false_iff]
      cases point : client.point.asked <;>
        simp_all [Client.moveTo, ClientPoint.asked]

theorem ServerMove.abandoned (lost : state.Abandoned)
    (taken : ServerMove state next) : next.Abandoned := by
  obtain ⟨answering, unasked⟩ := lost
  cases taken with
  | iterate | finish | awaitRes => exact ⟨rfl, unasked⟩
  | @openRes wynik client here found met =>
      exact absurd (Client.asked_of_holdsRes met)
        (List.any_eq_false.mp unasked client found)
  | openReq here | awaitReq here | read here | readEof here | closeReq here
  | retry here | write here | brokenPipe here | closeRes here =>
      rw [here] at answering
      cases answering

theorem Move.abandoned (lost : state.Abandoned)
    (taken : Move state action next events) : next.Abandoned := by
  cases taken with
  | start req =>
      refine ⟨lost.1, ?_⟩
      have unasked := lost.2
      simpa [State.anyAsked, Client.start, ClientPoint.asked] using unasked
  | server moved => exact moved.abandoned lost
  | client found moved => exact moved.abandoned lost found
  | @kill index client found living =>
      obtain ⟨answering, unasked⟩ := lost
      refine ⟨answering, ?_⟩
      rw [State.anyAsked, any_eq found, Bool.or_eq_false_iff] at unasked
      rw [State.anyAsked, any_set found, unasked.2]
      rfl

end Step

variable [Add Double] [Mul Double] [Div Double] [LT Double]
  [DecidableLT Double] [OfNat Double 0] [OfNat Double 1] [OfNat Double 4]

theorem run_abandoned {state last : State Double}
    {trace : List (Event Double)} (lost : state.Abandoned)
    (steps : (system Double).Run state trace last) : last.Abandoned := by
  apply steps.invariant State.Abandoned lost
  intro state action next events lost _ taken
  obtain ⟨moved, move, rfl⟩ := step_move taken
  have kept : moved.Abandoned := move.abandoned lost
  exact kept

theorem step_abandoned_iff {state next : State Double}
    {action : Action Double} {events : List (Event Double)}
    (attended : ¬ state.Abandoned)
    (taken : step state action = some (next, events)) :
    next.Abandoned ↔ ¬ Heeded state action := by
  obtain ⟨moved, move, rfl⟩ := step_move taken
  have decided : moved.Abandoned ↔ ¬ Heeded state action :=
    move.abandoned_iff attended
  exact decided

theorem run_attended {state : State Double} {trace : List (Event Double)}
    (steps : (system Double).RunWithin Heeded initial trace state) :
    ¬ state.Abandoned := by
  apply steps.invariant fun state => ¬ state.Abandoned
  · exact fun lost => nomatch lost.1
  · intro state action next events attended heeded taken
    exact fun lost => (step_abandoned_iff attended taken).mp lost heeded

/-- The integration the server is at, if any, ends. -/
def ServerPoint.Finishes : ServerPoint Double → Prop
  | .computing req x result =>
      ∃ fuel wynik,
        integrationLoop req.stop req.dx fuel x result = some wynik
  | _ => True

theorem run_waitingRes {state : State Double} {wynik : Double}
    (here : state.server = .openingRes wynik)
    (unasked : state.anyAsked = false) :
    ∃ last, (system Double).Run state [] last ∧
      last.server = .waitingRes wynik ∧ last.clients = state.clients := by
  have free : ∀ client ∈ state.clients, client.holdsRes = false := by
    intro client member
    cases held : client.holdsRes with
    | false => rfl
    | true =>
        exact absurd (Client.asked_of_holdsRes held)
          (List.any_eq_false.mp unasked client member)
  have nobody : ¬ state.clients.any Client.holdsRes := by simpa using free
  have same : state.clients.map Client.releaseRes = state.clients := by
    rw [List.map_congr_left fun client found =>
      Client.releaseRes_of_free (free client found), List.map_id']
  have taken : act state .server =
      some ({ state with server := .waitingRes wynik }, []) := by
    simp [act, serverStep, here, nobody, same]
  exact step_run taken

/-- The server comes to wait for its abandoned answer. -/
theorem run_computing {state : State Double} {req : Interval Double}
    {x result wynik : Double} {fuel : Nat}
    (here : state.server = .computing req x result)
    (ended : integrationLoop req.stop req.dx fuel x result = some wynik)
    (unasked : state.anyAsked = false) :
    ∃ last, (system Double).Run state [] last ∧
      last.server = .waitingRes wynik ∧ last.clients = state.clients := by
  obtain ⟨middle, first, server, clients⟩ := run_openingRes here ended
  obtain ⟨last, rest, waiting, same⟩ := run_waitingRes server
    (by rw [State.anyAsked, clients]; exact unasked)
  exact ⟨last, first.append rest, waiting, same.trans clients⟩

/-- One for a client that has not found out yet that nobody serves it. -/
def Client.pending (client : Client Double) : Nat :=
  match client.point with
  | .openingReq | .writing => 1
  | _ => 0

theorem act_pending {state : State Double} {index : Nat}
    {client : Client Double} {wynik : Double}
    (here : state.server = .waitingRes wynik)
    (found : state.clients[index]? = some client)
    (pending : client.pending ≠ 0) :
    ∃ after : Client Double, after.pending = 0 ∧ after.point.asked = false ∧
      act state (.client index) =
        some ({ state with clients := state.clients.set index after }, []) := by
  obtain ⟨⟨server, requests, responses⟩, clients⟩ := state
  obtain ⟨req, point⟩ := client
  cases here
  cases point with
  | openingReq =>
      refine ⟨⟨req, .waitingReq⟩, rfl, rfl, ?_⟩
      simp [act, State.moveClient, moveAt, found, clientStep,
        ServerPoint.releaseReq, ServerPoint.holdsReq, Client.moveTo]
  | writing =>
      refine ⟨⟨req, .ended⟩, rfl, rfl, ?_⟩
      simp [act, State.moveClient, moveAt, found, clientStep,
        ServerPoint.holdsReq, Client.moveTo]
  | _ => exact absurd rfl pending

theorem run_stuck {state : State Double} {wynik : Double}
    (here : state.server = .waitingRes wynik)
    (unasked : state.anyAsked = false) :
    ∃ last, (system Double).Run state [] last ∧ last.Stuck := by
  induction counted : census Client.pending state.clients
    generalizing state with
  | zero =>
      refine ⟨state, .refl state, ⟨wynik, here⟩, ?_⟩
      intro client member
      have still := census_eq_zero_iff.mp counted client member
      have gone := List.any_eq_false.mp unasked client member
      obtain ⟨req, point⟩ := client
      cases point <;> simp_all [Client.pending, ClientPoint.asked]
  | succ count inductionHypothesis =>
      have someone : ∃ client ∈ state.clients, client.pending ≠ 0 := by
        by_contra nobody
        simp only [not_exists, not_and, not_not] at nobody
        rw [census_eq_zero_iff.mpr nobody] at counted
        cases counted
      obtain ⟨client, member, pending⟩ := someone
      obtain ⟨index, found⟩ := List.getElem?_of_mem member
      obtain ⟨after, settled, silent, taken⟩ := act_pending here found pending
      obtain ⟨middle, first, server, clients⟩ := step_run taken
      have fewer : census Client.pending middle.clients = count := by
        have conserved := census_set Client.pending found after
        have one : client.pending = 1 := by
          revert pending
          unfold Client.pending
          split <;> simp
        rw [clients]
        change census Client.pending (state.clients.set index after) = count
        omega
      have still : middle.anyAsked = false := by
        rw [State.anyAsked, any_eq found, Bool.or_eq_false_iff] at unasked
        rw [State.anyAsked, clients, any_set found, silent, unasked.2]
        rfl
      obtain ⟨last, rest, stuck⟩ :=
        inductionHypothesis (server.trans here) still fewer
      exact ⟨last, first.append rest, stuck⟩

theorem State.Abandoned.stuck {state : State Double}
    (lost : state.Abandoned) (finishes : state.server.Finishes) :
    ∃ last, (system Double).Run state [] last ∧ last.Stuck := by
  obtain ⟨answering, unasked⟩ := lost
  have rest {middle : State Double} {wynik : Double}
      (first : (system Double).Run state [] middle)
      (waiting : middle.server = .waitingRes wynik)
      (same : middle.clients = state.clients) :
      ∃ last, (system Double).Run state [] last ∧ last.Stuck := by
    obtain ⟨last, later, stuck⟩ := run_stuck waiting
      (by rw [anyAsked, same]; exact unasked)
    exact ⟨last, first.append later, stuck⟩
  cases here : state.server with
  | computing req x result =>
      rw [here] at finishes
      obtain ⟨fuel, wynik, ended⟩ := finishes
      obtain ⟨middle, first, waiting, same⟩ := run_computing here ended unasked
      exact rest first waiting same
  | openingRes wynik =>
      obtain ⟨middle, first, waiting, same⟩ := run_waitingRes here unasked
      exact rest first waiting same
  | waitingRes wynik => exact rest (.refl state) here rfl
  | openingReq | waitingReq | reading | closingReq | writing | closingRes
  | killed =>
      rw [here] at answering
      cases answering

/-- A run that heeds the condition never comes to the circular wait.  The
first step that does not heed it leaves the server with an answer for which
nobody is left, for good, and if the integration ends the wait does come. -/
theorem stuck_iff_unheeded {trace : List (Event Double)}
    {state : State Double}
    (steps : (system Double).RunWithin Heeded initial trace state) :
    ¬ state.Stuck ∧ ∀ action next events,
      step state action = some (next, events) →
        (next.Abandoned ↔ ¬ Heeded state action) ∧
        (next.Abandoned →
          (∀ later last, (system Double).Run next later last →
            last.Abandoned) ∧
          (next.server.Finishes →
            ∃ last, (system Double).Run next [] last ∧ last.Stuck)) := by
  have attended := run_attended steps
  refine ⟨fun stuck => attended stuck.abandoned, ?_⟩
  intro action next events taken
  refine ⟨step_abandoned_iff attended taken, ?_⟩
  intro lost
  exact ⟨fun _ _ later => run_abandoned lost later, lost.stuck⟩

end

/-- The only client is killed after its write, and the server comes to wait
for its answer before the next client comes. -/
def interrupted : List (Action Rat) :=
  [.start ⟨0, 1, 1⟩, .client 0, .server, .client 0, .kill 0] ++
    List.replicate 5 .server ++ [.start ⟨0, 2, 1⟩, .client 1]

theorem stuck_interrupted : ¬ ∀ {trace : List (Event Rat)}
    {state : State Rat}, (system Rat).Run initial trace state →
      ¬ (state.Stuck ∧
        ∃ client ∈ state.clients, client.point = .waitingReq) := by
  intro never
  have reached :
      ((system Rat).execute (fun _ _ => True) initial interrupted).map
        (fun (state, _) => (state.server, state.clients.map Client.point)) =
        some (.waitingRes 4, [.ended, .waitingReq]) := by decide +kernel
  obtain ⟨⟨state, trace⟩, executed, reached⟩ :=
    Option.map_eq_some_iff.mp reached
  simp only [Prod.mk.injEq] at reached
  obtain ⟨waiting, points⟩ := reached
  have point {client : Client Rat} (member : client ∈ state.clients) :
      client.point = .waitingReq ∨ client.point = .ended := by
    have listed : client.point ∈ state.clients.map Client.point :=
      List.mem_map_of_mem member
    rw [points] at listed
    simpa [or_comm] using listed
  apply never (Machine.execute_runWithin executed)
  refine ⟨⟨⟨4, waiting⟩, fun client member => point member⟩, ?_⟩
  have blocked : ClientPoint.waitingReq ∈ state.clients.map Client.point := by
    rw [points]
    decide
  simpa using blocked

/-- Client 0 is answered, and a second client comes. -/
def attended : List (Action Rat) :=
  [.start ⟨0, 1, 1⟩, .client 0, .server, .client 0, .server, .client 0] ++
    List.replicate 4 .server ++ [.client 0, .server, .client 0, .server,
      .start ⟨0, 2, 1⟩, .client 1]

theorem stuck_iff_unheeded_attended :
    ∃ state : State Rat, ¬ state.Stuck ∧ state.clients.length = 2 := by
  have reached :
      ((system Rat).execute Heeded initial attended).map
        (fun (state, _) => state.clients.length) = some 2 := by
    decide +kernel
  obtain ⟨⟨state, trace⟩, executed, reached⟩ :=
    Option.map_eq_some_iff.mp reached
  exact ⟨state,
    (stuck_iff_unheeded (Machine.execute_runWithin executed)).1, reached⟩

end SysOp.Lab3
