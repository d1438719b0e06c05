import SysOp.Lab4.Chat

/-!
# What a step of the chat can be

The inversion of `step`: eight moves of the server, fourteen of a client, and
the start of a client.
-/

namespace SysOp.Lab4

open SysOp.Foundation

/-- The private queue of a client with one more message. -/
def Client.enqueue (client : Client) (msg : ChatMessage) : Client :=
  { client with queue := client.queue ++ [msg] }

inductive ServerMove (state : State) : State → List Event → Prop where
  | receive {msg : ChatMessage} {rest : List ChatMessage}
      (here : state.point = .receiving)
      (queued : state.serverQ = msg :: rest) :
      ServerMove state
        { state with serverQ := rest, point := .dispatching msg }
        [.consumed msg]
  | register {msg : ChatMessage} {clientQ : Nat}
      (here : state.point = .dispatching msg)
      (isInit : msg.type = .msgInit)
      (room : state.registry.activeClients < MAX_CLIENTS)
      (opened : mqOpen state.clients msg.queueName = some clientQ) :
      ServerMove state
        { state with
          registry := state.registry.register clientQ
          point := .replying clientQ state.registry.activeClients }
        [.registered state.registry.activeClients clientQ]
  | dismiss {msg : ChatMessage} (here : state.point = .dispatching msg)
      (notText : msg.type ≠ .msgText)
      (refused : msg.type = .msgInit →
        MAX_CLIENTS ≤ state.registry.activeClients ∨
          mqOpen state.clients msg.queueName = none) :
      ServerMove state { state with point := .receiving } []
  | broadcast {msg : ChatMessage} (here : state.point = .dispatching msg)
      (isText : msg.type = .msgText) :
      ServerMove state { state with point := .broadcasting msg 0 } []
  | reply {clientQ newId : Nat} {client : Client}
      (here : state.point = .replying clientQ newId)
      (found : state.clients[clientQ]? = some client)
      (room : client.queue.length < MAX_MSG) :
      ServerMove state
        { state with
          clients := state.clients.set clientQ
            (client.enqueue (idAssign newId))
          point := .receiving }
        [.placed clientQ (idAssign newId)]
  | forward {msg : ChatMessage} {i clientQ : Nat} {client : Client}
      (here : state.point = .broadcasting msg i)
      (active : i < state.registry.activeClients)
      (target : state.registry.target msg i = some clientQ)
      (found : state.clients[clientQ]? = some client)
      (room : client.queue.length < MAX_MSG) :
      ServerMove state
        { state with
          clients := state.clients.set clientQ (client.enqueue msg)
          point := .broadcasting msg (i + 1) }
        [.placed clientQ msg]
  | skip {msg : ChatMessage} {i : Nat}
      (here : state.point = .broadcasting msg i)
      (active : i < state.registry.activeClients)
      (target : state.registry.target msg i = none) :
      ServerMove state { state with point := .broadcasting msg (i + 1) } []
  | finish {msg : ChatMessage} {i : Nat}
      (here : state.point = .broadcasting msg i)
      (past : ¬ i < state.registry.activeClients) :
      ServerMove state { state with point := .receiving } []

/-- A move of the client at position `index` on the server's queue. -/
inductive ClientMove (index : Nat) (serverQ : List ChatMessage)
    (client : Client) :
    List ChatMessage → Client → List Event → Prop where
  | create (here : client.parent = .opening) :
      ClientMove index serverQ client serverQ
        { client with linked := true, parent := .sendingInit } []
  | sendInit (here : client.parent = .sendingInit)
      (room : serverQ.length < MAX_MSG) :
      ClientMove index serverQ client (serverQ ++ [client.initMsg])
        { client with parent := .awaitingReply } []
  | assigned {msg : ChatMessage} {rest : List ChatMessage}
      (here : client.parent = .awaitingReply)
      (queued : client.queue = msg :: rest)
      (accepted : msg.type = .msgIdAssign) :
      ClientMove index serverQ client serverQ
        { client with queue := rest, parent := .forking msg.clientId }
        [.received index msg]
  | refused {msg : ChatMessage} {rest : List ChatMessage}
      (here : client.parent = .awaitingReply)
      (queued : client.queue = msg :: rest)
      (other : msg.type ≠ .msgIdAssign) :
      ClientMove index serverQ client serverQ
        { client with queue := rest, parent := .unlinking }
        [.received index msg]
  | fork {myId : Int} (here : client.parent = .forking myId) :
      ClientMove index serverQ client serverQ
        { client with parent := .reading myId, child := .receiving } []
  | readEmpty {myId : Int} (here : client.parent = .reading myId) :
      ClientMove index serverQ client serverQ client []
  | read {myId : Int} {line : List Char}
      (here : client.parent = .reading myId) (nonempty : line ≠ ['\n']) :
      ClientMove index serverQ client serverQ
        { client with parent := .sending myId line } [.typed index line]
  | send {myId : Int} {text : List Char}
      (here : client.parent = .sending myId text)
      (room : serverQ.length < MAX_MSG) :
      ClientMove index serverQ client (serverQ ++ [Client.outMsg myId text])
        { client with parent := .reading myId } []
  | unlink (here : client.parent = .unlinking) :
      ClientMove index serverQ client serverQ
        { client with linked := false, parent := .killing } []
  | kill (here : client.parent = .killing) :
      ClientMove index serverQ client serverQ
        { client with
          parent := .exited
          child := if client.child = .receiving then .unlinking
            else client.child } []
  | receive {msg : ChatMessage} {rest : List ChatMessage}
      (there : client.child = .receiving)
      (queued : client.queue = msg :: rest) :
      ClientMove index serverQ client serverQ { client with queue := rest }
        [.received index msg]
  | childUnlink (there : client.child = .unlinking) :
      ClientMove index serverQ client serverQ
        { client with linked := false, child := .exited } []
  | interruptParent (living : client.parent ≠ .unlinking)
      (started : client.parent ≠ .killing)
      (running : client.parent ≠ .exited) :
      ClientMove index serverQ client serverQ
        { client with parent := .unlinking } []
  | interruptChild (there : client.child = .receiving) :
      ClientMove index serverQ client serverQ
        { client with child := .unlinking } []

inductive Move (state : State) : State → List Event → Prop where
  | start {pid : Pid} (fresh : pid ∉ state.clients.map Client.pid) :
      Move state { state with clients := state.clients ++ [.start pid] } []
  | server {next : State} {events : List Event}
      (moved : ServerMove state next events) : Move state next events
  | client {index : Nat} {client after : Client} {serverQ : List ChatMessage}
      {events : List Event} (found : state.clients[index]? = some client)
      (moved : ClientMove index state.serverQ client serverQ after events) :
      Move state
        { state with serverQ, clients := state.clients.set index after } events

theorem sendTo_eq_some_iff {clients after : List Client} {clientQ : Nat}
    {msg : ChatMessage} :
    sendTo clients clientQ msg = some after ↔
      ∃ client, clients[clientQ]? = some client ∧
        client.queue.length < MAX_MSG ∧
        after = clients.set clientQ (client.enqueue msg) := by
  simp only [sendTo, Option.bind_eq_some_iff, Option.map_eq_some_iff,
    mqSend_eq_some_iff]
  constructor
  · rintro ⟨client, found, _, ⟨room, rfl⟩, rfl⟩
    exact ⟨client, found, room, rfl⟩
  · rintro ⟨client, found, room, rfl⟩
    exact ⟨client, found, _, ⟨room, rfl⟩, rfl⟩

theorem serverStep_move {state next : State} {events : List Event}
    (taken : serverStep state = some (next, events)) :
    ServerMove state next events := by
  unfold serverStep at taken
  split at taken
  case h_1 here =>
    simp only [Option.map_eq_some_iff, Prod.exists, mqReceive_eq_some_iff,
      Prod.mk.injEq] at taken
    obtain ⟨msg, rest, queued, rfl, rfl⟩ := taken
    exact .receive here queued
  case h_2 msg here =>
    split at taken
    case h_1 isInit =>
      split at taken
      case isTrue room =>
        split at taken
        case h_1 clientQ opened =>
          cases taken
          exact .register here isInit room opened
        case h_2 missing =>
          cases taken
          exact .dismiss here (by simp [isInit]) fun _ => .inr missing
      case isFalse full =>
        cases taken
        exact .dismiss here (by simp [isInit]) fun _ => .inl (by omega)
    case h_2 isText =>
      cases taken
      exact .broadcast here isText
    case h_3 notInit notText =>
      cases taken
      exact .dismiss here notText fun isInit => absurd isInit notInit
  case h_3 clientQ newId here =>
    simp only [Option.map_eq_some_iff, sendTo_eq_some_iff,
      Prod.mk.injEq] at taken
    obtain ⟨_, ⟨client, found, room, rfl⟩, rfl, rfl⟩ := taken
    exact .reply here found room
  case h_4 msg i here =>
    split at taken
    case isTrue active =>
      split at taken
      case h_1 clientQ target =>
        simp only [Option.map_eq_some_iff, sendTo_eq_some_iff,
          Prod.mk.injEq] at taken
        obtain ⟨_, ⟨client, found, room, rfl⟩, rfl, rfl⟩ := taken
        exact .forward here active target found room
      case h_2 target =>
        cases taken
        exact .skip here active target
    case isFalse past =>
      cases taken
      exact .finish here past

section Client

variable {index : Nat} {serverQ after : List ChatMessage}
  {client moved : Client} {events : List Event}

theorem parentStep_move {line : List Char}
    (taken : parentStep index line serverQ client =
      some (after, moved, events)) :
    ClientMove index serverQ client after moved events := by
  unfold parentStep at taken
  split at taken
  case h_1 here =>
    cases taken
    exact .create here
  case h_2 here =>
    simp only [Option.map_eq_some_iff, mqSend_eq_some_iff,
      Prod.mk.injEq] at taken
    obtain ⟨_, ⟨room, rfl⟩, rfl, rfl, rfl⟩ := taken
    exact .sendInit here room
  case h_3 here =>
    simp only [Option.map_eq_some_iff, Prod.exists, mqReceive_eq_some_iff,
      Prod.mk.injEq] at taken
    obtain ⟨msg, rest, queued, rfl, rfl, rfl⟩ := taken
    by_cases accepted : msg.type = .msgIdAssign
    · rw [if_pos accepted]
      exact .assigned here queued accepted
    · rw [if_neg accepted]
      exact .refused here queued accepted
  case h_4 myId here =>
    cases taken
    exact .fork here
  case h_5 myId here =>
    split at taken
    case isTrue =>
      cases taken
      exact .readEmpty here
    case isFalse nonempty =>
      cases taken
      exact .read here nonempty
  case h_6 myId text here =>
    simp only [Option.map_eq_some_iff, mqSend_eq_some_iff,
      Prod.mk.injEq] at taken
    obtain ⟨_, ⟨room, rfl⟩, rfl, rfl, rfl⟩ := taken
    exact .send here room
  case h_7 here =>
    cases taken
    exact .unlink here
  case h_8 here =>
    cases taken
    exact .kill here
  case h_9 => simp at taken

theorem childStep_move
    (taken : childStep index serverQ client = some (after, moved, events)) :
    ClientMove index serverQ client after moved events := by
  unfold childStep at taken
  split at taken
  case h_1 there =>
    simp only [Option.map_eq_some_iff, Prod.exists, mqReceive_eq_some_iff,
      Prod.mk.injEq] at taken
    obtain ⟨msg, rest, queued, rfl, rfl, rfl⟩ := taken
    exact .receive there queued
  case h_2 there =>
    cases taken
    exact .childUnlink there
  case h_3 => simp at taken
  case h_4 => simp at taken

theorem interruptParent_move
    (taken : interruptParent serverQ client = some (after, moved, events)) :
    ClientMove index serverQ client after moved events := by
  unfold interruptParent at taken
  split at taken
  case h_4 living started running =>
    cases taken
    exact .interruptParent living started running
  all_goals simp at taken

theorem interruptChild_move
    (taken : interruptChild serverQ client = some (after, moved, events)) :
    ClientMove index serverQ client after moved events := by
  unfold interruptChild at taken
  split at taken
  case h_1 there =>
    cases taken
    exact .interruptChild there
  case h_2 => simp at taken

end Client

theorem State.moveClient_eq_some {state next : State} {index : Nat}
    {events : List Event}
    {move : List ChatMessage → Client →
      Option (List ChatMessage × Client × List Event)}
    (taken : state.moveClient index move = some (next, events)) :
    ∃ client serverQ after, state.clients[index]? = some client ∧
      move state.serverQ client = some (serverQ, after, events) ∧
      next = { state with
        serverQ, clients := state.clients.set index after } := by
  simp only [State.moveClient, Option.map_eq_some_iff, Prod.exists,
    Prod.mk.injEq, moveAt_eq_some_iff] at taken
  obtain ⟨serverQ, _, _, ⟨client, after, found, moved, rfl⟩, rfl, rfl⟩ := taken
  exact ⟨client, serverQ, after, found, moved, rfl⟩

theorem moveClient_move {state next : State} {index : Nat}
    {events : List Event}
    {move : List ChatMessage → Client →
      Option (List ChatMessage × Client × List Event)}
    (inverted : ∀ {client moved serverQ events},
      move state.serverQ client = some (serverQ, moved, events) →
      ClientMove index state.serverQ client serverQ moved events)
    (taken : state.moveClient index move = some (next, events)) :
    Move state next events := by
  obtain ⟨client, serverQ, after, found, moved, rfl⟩ :=
    State.moveClient_eq_some taken
  exact .client found (inverted moved)

theorem step_move {state next : State} {action : Action}
    {events : List Event} (taken : step state action = some (next, events)) :
    Move state next events := by
  cases action with
  | start pid =>
      simp only [step] at taken
      split at taken
      case isTrue => simp at taken
      case isFalse fresh =>
        cases taken
        exact .start fresh
  | server => exact .server (serverStep_move taken)
  | parent index line => exact moveClient_move parentStep_move taken
  | child index => exact moveClient_move childStep_move taken
  | interruptParent index => exact moveClient_move interruptParent_move taken
  | interruptChild index => exact moveClient_move interruptChild_move taken

end SysOp.Lab4
