import SysOp.Foundation.Machine
import SysOp.Foundation.Population
import SysOp.Lab4.Message
import Mathlib.Data.Vector.Basic

/-!
# The chat: one server and its clients

`server.c` and any number of `client.c` processes, over the queue of the
server and the private queue of each client.  A step is one system call or
one local decision; a blocked call is a disabled step.  `fork` and the
assignment of `child_pid` are one step, and no process id is used twice.

The queue of a client lives on after `mq_unlink`, since the server keeps its
descriptor: it is known by the position of its client, and a descriptor is
that position.
-/

namespace SysOp.Lab4

open SysOp.Foundation

/-- The registry of `server.c`; `none` is `(mqd_t) -1`. -/
structure Registry where
  clientQueues : Vector (Option Nat) MAX_CLIENTS
  activeClients : Nat

/-- Program points of the server loop: before `mq_receive`, before the test
of the type, before the `mq_send` of a reply and before test `i` of the
broadcast loop. -/
inductive ServerPoint where
  | receiving
  | dispatching (msg : ChatMessage)
  | replying (clientQ newId : Nat)
  | broadcasting (msg : ChatMessage) (i : Nat)

/-- Program points of the process `client.c` starts as.  The last three are
in `cleanup_handler`. -/
inductive Parent where
  | opening
  | sendingInit
  | awaitingReply
  | forking (myId : Int)
  | reading (myId : Int)
  | sending (myId : Int) (text : List Char)
  | unlinking
  | killing
  | exited

/-- Program points of the forked receiver. -/
inductive Child where
  | notForked
  | receiving
  | unlinking
  | exited
  deriving DecidableEq

/-- A client with its private queue; `linked` tells whether the queue can
still be opened by its name. -/
structure Client where
  pid : Pid
  linked : Bool
  queue : List ChatMessage
  parent : Parent
  child : Child

structure State where
  registry : Registry
  point : ServerPoint
  serverQ : List ChatMessage
  clients : List Client

/-- Clients are named by their position. -/
inductive Event where
  | consumed (msg : ChatMessage)
  | registered (newId client : Nat)
  | placed (client : Nat) (msg : ChatMessage)
  | received (client : Nat) (msg : ChatMessage)
  | typed (client : Nat) (text : List Char)

/-- Clients may be started and interrupted at any time.  `line` is what
`fgets` returns if the step of the parent calls it. -/
inductive Action where
  | start (pid : Pid)
  | server
  | parent (index : Nat) (line : List Char)
  | child (index : Nat)
  | interruptParent (index : Nat)
  | interruptChild (index : Nat)

namespace Registry

def initial : Registry where
  clientQueues := Vector.replicate MAX_CLIENTS none
  activeClients := 0

def queue (registry : Registry) (i : Nat) : Option Nat :=
  registry.clientQueues[i]?.join

def register (registry : Registry) (clientQ : Nat) : Registry where
  clientQueues :=
    registry.clientQueues.setIfInBounds registry.activeClients (some clientQ)
  activeClients := registry.activeClients + 1

/-- The queue iteration `i` of the broadcast loop sends to. -/
def target (registry : Registry) (msg : ChatMessage) (i : Nat) : Option Nat :=
  if (i : Int) ≠ msg.clientId then registry.queue i else none

end Registry

def idAssign (newId : Nat) : ChatMessage :=
  { ChatMessage.zeroed with type := .msgIdAssign, clientId := newId }

namespace Client

def start (pid : Pid) : Client where
  pid := pid
  linked := false
  queue := []
  parent := .opening
  child := .notForked

def initMsg (client : Client) : ChatMessage :=
  { ChatMessage.zeroed with
    type := .msgInit, queueName := clientQName client.pid }

def outMsg (myId : Int) (text : List Char) : ChatMessage :=
  { ChatMessage.zeroed with type := .msgText, clientId := myId, text }

end Client

/-- `mq_open(name, O_WRONLY)`. -/
def mqOpen (clients : List Client) (name : QueueName) : Option Nat :=
  clients.findIdx? fun client =>
    client.linked && decide (clientQName client.pid = name)

/-- `mq_send` on the private queue of a client. -/
def sendTo (clients : List Client) (clientQ : Nat) (msg : ChatMessage) :
    Option (List Client) :=
  clients[clientQ]?.bind fun client =>
    (mqSend client.queue msg).map fun queue =>
      clients.set clientQ { client with queue }

def serverStep (state : State) : Option (State × List Event) :=
  match state.point with
  | .receiving =>
      (mqReceive state.serverQ).map fun (msg, serverQ) =>
        ({ state with serverQ, point := .dispatching msg }, [.consumed msg])
  | .dispatching msg =>
      match msg.type with
      | .msgInit =>
          if state.registry.activeClients < MAX_CLIENTS then
            match mqOpen state.clients msg.queueName with
            | some clientQ =>
                let newId := state.registry.activeClients
                some ({ state with
                  registry := state.registry.register clientQ
                  point := .replying clientQ newId },
                  [.registered newId clientQ])
            | none => some ({ state with point := .receiving }, [])
          else
            some ({ state with point := .receiving }, [])
      | .msgText => some ({ state with point := .broadcasting msg 0 }, [])
      | _ => some ({ state with point := .receiving }, [])
  | .replying clientQ newId =>
      (sendTo state.clients clientQ (idAssign newId)).map fun clients =>
        ({ state with clients, point := .receiving },
          [.placed clientQ (idAssign newId)])
  | .broadcasting msg i =>
      if i < state.registry.activeClients then
        match state.registry.target msg i with
        | some clientQ =>
            (sendTo state.clients clientQ msg).map fun clients =>
              ({ state with clients, point := .broadcasting msg (i + 1) },
                [.placed clientQ msg])
        | none =>
            some ({ state with point := .broadcasting msg (i + 1) }, [])
      else
        some ({ state with point := .receiving }, [])

/-- The client at position `index` works with the server's queue and its
own.  An answer other than `MSG_ID_ASSIGN` makes it call the handler. -/
def parentStep (index : Nat) (line : List Char) (serverQ : List ChatMessage)
    (client : Client) : Option (List ChatMessage × Client × List Event) :=
  match client.parent with
  | .opening =>
      some (serverQ, { client with linked := true, parent := .sendingInit }, [])
  | .sendingInit =>
      (mqSend serverQ client.initMsg).map fun serverQ =>
        (serverQ, { client with parent := .awaitingReply }, [])
  | .awaitingReply =>
      (mqReceive client.queue).map fun (msg, queue) =>
        (serverQ,
          { client with
            queue
            parent := if msg.type = .msgIdAssign then .forking msg.clientId
              else .unlinking },
          [.received index msg])
  | .forking myId =>
      some (serverQ,
        { client with parent := .reading myId, child := .receiving }, [])
  | .reading myId =>
      if line = ['\n'] then
        some (serverQ, client, [])
      else
        some (serverQ, { client with parent := .sending myId line },
          [.typed index line])
  | .sending myId text =>
      (mqSend serverQ (Client.outMsg myId text)).map fun serverQ =>
        (serverQ, { client with parent := .reading myId }, [])
  | .unlinking =>
      some (serverQ, { client with linked := false, parent := .killing }, [])
  | .killing =>
      some (serverQ,
        { client with
          parent := .exited
          child := if client.child = .receiving then .unlinking
            else client.child }, [])
  | .exited => none

def childStep (index : Nat) (serverQ : List ChatMessage) (client : Client) :
    Option (List ChatMessage × Client × List Event) :=
  match client.child with
  | .receiving =>
      (mqReceive client.queue).map fun (msg, queue) =>
        (serverQ, { client with queue }, [.received index msg])
  | .unlinking =>
      some (serverQ, { client with linked := false, child := .exited }, [])
  | .notForked | .exited => none

/-- SIGINT or SIGTERM for the parent. -/
def interruptParent (serverQ : List ChatMessage) (client : Client) :
    Option (List ChatMessage × Client × List Event) :=
  match client.parent with
  | .unlinking | .killing | .exited => none
  | _ => some (serverQ, { client with parent := .unlinking }, [])

/-- The child has inherited the handler of its parent. -/
def interruptChild (serverQ : List ChatMessage) (client : Client) :
    Option (List ChatMessage × Client × List Event) :=
  match client.child with
  | .receiving => some (serverQ, { client with child := .unlinking }, [])
  | _ => none

def State.moveClient (state : State) (index : Nat)
    (move : List ChatMessage → Client →
      Option (List ChatMessage × Client × List Event)) :
    Option (State × List Event) :=
  (moveAt state.clients index (move state.serverQ)).map
    fun (serverQ, clients, events) => ({ state with serverQ, clients }, events)

def step (state : State) : Action → Option (State × List Event)
  | .start pid =>
      if pid ∈ state.clients.map Client.pid then none
      else some ({ state with clients := state.clients ++ [.start pid] }, [])
  | .server => serverStep state
  | .parent index line => state.moveClient index (parentStep index line)
  | .child index => state.moveClient index (childStep index)
  | .interruptParent index => state.moveClient index interruptParent
  | .interruptChild index => state.moveClient index interruptChild

def initial : State where
  registry := .initial
  point := .receiving
  serverQ := []
  clients := []

def system : Machine State Action Event where
  start := initial
  step := step

/-- Client `index` opens its queue and is registered. -/
def registering (index : Nat) : List Action :=
  List.replicate 2 (.parent index []) ++ List.replicate 3 .server ++
    List.replicate 2 (.parent index [])

/-- Two clients sign on. -/
def twoClients : List Action :=
  [.start 1, .start 2] ++ registering 0 ++ registering 1

/-- Client `index` sends a line and the server takes it to its broadcast. -/
def speaking (index : Nat) : List Action :=
  [.parent index ['h', 'i'], .parent index [], .server, .server]

end SysOp.Lab4
