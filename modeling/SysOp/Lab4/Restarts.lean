import SysOp.Foundation.Names
import SysOp.Lab4.Registration

/-!
# Servers that come and go

How `server.c` takes its name, and how it gives it up in `cleanup_handler`, next
to clients that open that name once.  The queue of a server stays with the
clients that have it open; a later server makes another one.

A server may also be killed, and then leaves its name behind.
-/

namespace SysOp.Lab4

open SysOp.Foundation

namespace Restarts

/-- `unlinking` and `opening` are before the two calls of `main`, `cleaning` is
before `mq_unlink` in the handler.  `serverQ` tells which queue it has. -/
inductive Server where
  | unlinking
  | opening
  | serving (serverQ : Nat) (registry : Registry) (point : ServerPoint)
  | cleaning
  | ended
  | killed

def Server.over : Server → Bool
  | .ended | .killed => true
  | _ => false

/-- What `SERVER_QUEUE_NAME` stands for, and `server_q` of each client. -/
structure World where
  queues : Named (List ChatMessage)
  servers : List Server
  clients : List Client
  opened : Nat → Option Nat

inductive Action where
  | startServer
  | server (index : Nat)
  | interruptServer (index : Nat)
  | killServer (index : Nat)
  | startClient (pid : Pid)
  | parent (index : Nat) (line : List Char)
  | child (index : Nat)
  | interruptParent (index : Nat)
  | interruptChild (index : Nat)

/-- The events of the chat that belong to a queue. -/
abbrev Event := Nat × Lab4.Event

namespace World

/-- The chat as one server sees it. -/
def chat (world : World) (serverQ : Nat) (registry : Registry)
    (point : ServerPoint) : State where
  registry := registry
  point := point
  serverQ := world.queues.read [] serverQ
  clients := world.clients

def serverStep (world : World) (index : Nat) :
    Server → Option (World × List Event)
  | .unlinking =>
      some ({ world with
        queues := world.queues.unlink
        servers := world.servers.set index .opening }, [])
  | .opening =>
      let (queues, serverQ) := world.queues.openCreate []
      some ({ world with
        queues
        servers := world.servers.set index
          (.serving serverQ .initial .receiving) }, [])
  | .serving serverQ registry point =>
      (Lab4.serverStep (world.chat serverQ registry point)).map
        fun (chat, events) =>
          ({ world with
              queues := world.queues.write serverQ chat.serverQ
              servers := world.servers.set index
                (.serving serverQ chat.registry chat.point)
              clients := chat.clients }, events.map (serverQ, ·))
  | .cleaning =>
      some ({ world with
        queues := world.queues.unlink
        servers := world.servers.set index .ended }, [])
  | .ended | .killed => none

/-- A step of a client that takes part in a chat. -/
def memberStep (world : World) (index serverQ : Nat)
    (move : List ChatMessage → Client →
      Option (List ChatMessage × Client × List Lab4.Event)) :
    Option (World × List Event) :=
  (moveAt world.clients index (move (world.queues.read [] serverQ))).map
    fun (queue, clients, events) =>
      ({ world with queues := world.queues.write serverQ queue, clients },
        events.map (serverQ, ·))

end World

/-- A client that has not opened the server's queue: it makes its own queue,
opens the other one and calls the handler if there is none. -/
def detachedStep (current : Option Nat) (client : Client) :
    Option (Option Nat × Client) :=
  match client.parent with
  | .opening =>
      if client.linked then
        match current with
        | some serverQ => some (some serverQ, { client with parent := .sendingInit })
        | none => some (none, { client with parent := .unlinking })
      else some (none, { client with linked := true })
  | .unlinking => some (none, { client with linked := false, parent := .killing })
  | .killing => some (none, { client with parent := .exited })
  | _ => none

def step (world : World) : Action → Option (World × List Event)
  | .startServer =>
      some ({ world with servers := world.servers ++ [.unlinking] }, [])
  | .server index => world.servers[index]?.bind (world.serverStep index)
  | .interruptServer index =>
      world.servers[index]?.bind fun
        | .cleaning | .ended | .killed => none
        | .unlinking | .opening | .serving _ _ _ =>
            some ({ world with
              servers := world.servers.set index .cleaning }, [])
  | .killServer index =>
      world.servers[index]?.bind fun
        | .ended | .killed => none
        | .unlinking | .opening | .serving _ _ _ | .cleaning =>
            some ({ world with
              servers := world.servers.set index .killed }, [])
  | .startClient pid =>
      if world.clients.any (·.pid = pid) then none
      else some ({ world with clients := world.clients ++ [.start pid] }, [])
  | .parent index line =>
      match world.opened index with
      | some serverQ => world.memberStep index serverQ (parentStep index line)
      | none =>
          world.clients[index]?.bind fun client =>
            (detachedStep world.queues.current client).map
              fun (serverQ, client) =>
                ({ world with
                    clients := world.clients.set index client
                    opened := Function.update world.opened index serverQ }, [])
  | .child index =>
      (world.opened index).bind fun serverQ =>
        world.memberStep index serverQ (childStep index)
  | .interruptParent index =>
      match world.opened index with
      | some serverQ => world.memberStep index serverQ Lab4.interruptParent
      | none =>
          (moveAt world.clients index (Lab4.interruptParent [])).map
            fun (_, clients, _) => ({ world with clients }, [])
  | .interruptChild index =>
      (world.opened index).bind fun serverQ =>
        world.memberStep index serverQ Lab4.interruptChild

def initial : World where
  queues := .init
  servers := []
  clients := []
  opened := fun _ => none

def restarts : Machine World Action Event where
  start := initial
  step := step

inductive Move (world : World) : Action → World → List Event → Prop where
  | startServer :
      Move world .startServer
        { world with servers := world.servers ++ [.unlinking] } []
  | unlink {index : Nat} (found : world.servers[index]? = some .unlinking) :
      Move world (.server index)
        { world with
          queues := world.queues.unlink
          servers := world.servers.set index .opening } []
  | create {index : Nat} (found : world.servers[index]? = some .opening) :
      Move world (.server index)
        { world with
          queues := (world.queues.openCreate []).1
          servers := world.servers.set index
            (.serving (world.queues.openCreate []).2 .initial .receiving) } []
  | serve {index serverQ : Nat} {registry : Registry} {point : ServerPoint}
      {chat : State} {events : List Lab4.Event}
      (found : world.servers[index]? = some (.serving serverQ registry point))
      (served : Lab4.serverStep (world.chat serverQ registry point) =
        some (chat, events)) :
      Move world (.server index)
        { world with
          queues := world.queues.write serverQ chat.serverQ
          servers := world.servers.set index
            (.serving serverQ chat.registry chat.point)
          clients := chat.clients } (events.map (serverQ, ·))
  | clean {index : Nat} (found : world.servers[index]? = some .cleaning) :
      Move world (.server index)
        { world with
          queues := world.queues.unlink
          servers := world.servers.set index .ended } []
  | interruptServer {index : Nat} {server : Server}
      (found : world.servers[index]? = some server)
      (running : server.over = false) :
      Move world (.interruptServer index)
        { world with servers := world.servers.set index .cleaning } []
  | killServer {index : Nat} {server : Server}
      (found : world.servers[index]? = some server)
      (running : server.over = false) :
      Move world (.killServer index)
        { world with servers := world.servers.set index .killed } []
  | startClient {pid : Pid} (fresh : pid ∉ world.clients.map Client.pid) :
      Move world (.startClient pid)
        { world with clients := world.clients ++ [.start pid] } []
  | detached {action : Action} {index : Nat} {client after : Client}
      {serverQ : Option Nat} (found : world.clients[index]? = some client)
      (apart : world.opened index = none)
      (moved : detachedStep world.queues.current client =
        some (serverQ, after)) :
      Move world action
        { world with
          clients := world.clients.set index after
          opened := Function.update world.opened index serverQ } []
  | leave {action : Action} {index : Nat} {client : Client}
      (found : world.clients[index]? = some client)
      (apart : world.opened index = none) :
      Move world action
        { world with
          clients := world.clients.set index
            { client with parent := .unlinking } } []
  | member {action : Action} {known : Lab4.Action} {index serverQ : Nat}
      {client after : Client} {queue : List ChatMessage}
      {events : List Lab4.Event}
      {move : List ChatMessage → Client →
        Option (List ChatMessage × Client × List Lab4.Event)}
      (same : ∀ chat, Lab4.step chat known = chat.moveClient index move)
      (own : world.opened index = some serverQ)
      (found : world.clients[index]? = some client)
      (moved : move (world.queues.read [] serverQ) client =
        some (queue, after, events))
      (pid : after.pid = client.pid) :
      Move world action
        { world with
          queues := world.queues.write serverQ queue
          clients := world.clients.set index after }
        (events.map (serverQ, ·))

theorem memberStep_move {world next : World} {action : Action}
    {index serverQ : Nat} {events : List Event} (known : Lab4.Action)
    {move : List ChatMessage → Client →
      Option (List ChatMessage × Client × List Lab4.Event)}
    (same : ∀ chat, Lab4.step chat known = chat.moveClient index move)
    (inverted : ∀ {queue client after moved events},
      move queue client = some (after, moved, events) →
      ClientMove index queue client after moved events)
    (own : world.opened index = some serverQ)
    (taken : world.memberStep index serverQ move = some (next, events)) :
    Move world action next events := by
  simp only [World.memberStep, Option.map_eq_some_iff, Prod.exists,
    Prod.mk.injEq, moveAt_eq_some_iff] at taken
  obtain ⟨queue, _, emitted, ⟨client, after, found, moved, rfl⟩, rfl, rfl⟩ :=
    taken
  exact .member same own found moved (inverted moved).pid

theorem step_move {world next : World} {action : Action} {events : List Event}
    (taken : step world action = some (next, events)) :
    Move world action next events := by
  cases action with
  | startServer =>
      cases taken
      exact .startServer
  | server index =>
      obtain ⟨server, found, stepped⟩ := Option.bind_eq_some_iff.mp taken
      cases server with
      | unlinking =>
          cases stepped
          exact .unlink found
      | opening =>
          cases stepped
          exact .create found
      | serving serverQ registry point =>
          obtain ⟨⟨chat, emitted⟩, served, same⟩ :=
            Option.map_eq_some_iff.mp stepped
          cases same
          exact .serve found served
      | cleaning =>
          cases stepped
          exact .clean found
      | ended | killed => cases stepped
  | interruptServer index =>
      obtain ⟨server, found, stepped⟩ := Option.bind_eq_some_iff.mp taken
      cases server <;> cases stepped <;> exact .interruptServer found rfl
  | killServer index =>
      obtain ⟨server, found, stepped⟩ := Option.bind_eq_some_iff.mp taken
      cases server <;> cases stepped <;> exact .killServer found rfl
  | startClient pid =>
      simp only [step] at taken
      split at taken
      case isTrue => cases taken
      case isFalse free =>
        cases taken
        refine .startClient fun used => free ?_
        obtain ⟨client, member, same⟩ := List.mem_map.mp used
        exact List.any_eq_true.mpr ⟨client, member, decide_eq_true same⟩
  | parent index line =>
      simp only [step] at taken
      split at taken
      case h_1 serverQ own =>
        exact memberStep_move (.parent index line) (fun _ => rfl)
          parentStep_move own taken
      case h_2 apart =>
        obtain ⟨client, found, stepped⟩ := Option.bind_eq_some_iff.mp taken
        obtain ⟨⟨serverQ, after⟩, moved, same⟩ :=
          Option.map_eq_some_iff.mp stepped
        cases same
        exact .detached found apart moved
  | child index =>
      obtain ⟨serverQ, own, stepped⟩ := Option.bind_eq_some_iff.mp taken
      exact memberStep_move (.child index) (fun _ => rfl)
        childStep_move own stepped
  | interruptParent index =>
      simp only [step] at taken
      split at taken
      case h_1 serverQ own =>
        exact memberStep_move (.interruptParent index) (fun _ => rfl)
          interruptParent_move own taken
      case h_2 apart =>
        simp only [Option.map_eq_some_iff, Prod.exists, Prod.mk.injEq,
          moveAt_eq_some_iff] at taken
        obtain ⟨_, _, _, ⟨client, after, found, moved, rfl⟩, rfl, rfl⟩ := taken
        unfold Lab4.interruptParent at moved
        split at moved <;> cases moved
        exact .leave found apart
  | interruptChild index =>
      obtain ⟨serverQ, own, stepped⟩ := Option.bind_eq_some_iff.mp taken
      exact memberStep_move (.interruptChild index) (fun _ => rfl)
        interruptChild_move own stepped

end Restarts

end SysOp.Lab4
