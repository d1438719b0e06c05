import SysOp.Foundation.Machine
import SysOp.Foundation.Population
import SysOp.Lab3.Integrator

/-!
# The integration service

`program2.c` and any number of `program1.c` processes over `FIFO_REQ` and
`FIFO_RES`.  A step is one system call, one iteration of the integration loop
or a part of `open`: a process that finds nobody at the other end waits there
and is released by the one who opens that end.  A waiting process counts as
one that holds its end.

Messages are smaller than `PIPE_BUF`, so that a FIFO holds whole messages, and
it loses them when nobody holds it any more.  That a FIFO may be full only
delays a writer and is left out.  A write nobody can read raises `SIGPIPE`,
for which no program has a handler.
-/

namespace SysOp.Lab3

open SysOp.Foundation

/-- Program points of the server loop, each before the call it names; the
waiting ones are inside `open`.  `received` is what `read` returned. -/
inductive ServerPoint (Double : Type) where
  | openingReq
  | waitingReq
  | reading
  | closingReq (received : Option (Interval Double))
  | computing (req : Interval Double) (x result : Double)
  | openingRes (wynik : Double)
  | waitingRes (wynik : Double)
  | writing (wynik : Double)
  | closingRes
  | killed
  deriving DecidableEq

/-- Program points of a client whose input has been read; `ended` is after
its exit or its death. -/
inductive ClientPoint where
  | openingReq
  | waitingReq
  | writing
  | closingReq
  | openingRes
  | waitingRes
  | reading
  | closingRes
  | ended
  deriving DecidableEq

structure Client (Double : Type) where
  req : Interval Double
  point : ClientPoint

/-- The server and the contents of the two FIFOs. -/
structure Service (Double : Type) where
  server : ServerPoint Double
  requests : List (Interval Double)
  responses : List Double

structure State (Double : Type) extends Service Double where
  clients : List (Client Double)

/-- Clients are named by their position. -/
inductive Event (Double : Type) where
  | wrote (client : Nat) (req : Interval Double)
  | printed (client : Nat) (wynik : Double)
  deriving DecidableEq

/-- Clients may be started with any input, and killed, at any time. -/
inductive Action (Double : Type) where
  | start (req : Interval Double)
  | server
  | client (index : Nat)
  | kill (index : Nat)

namespace ServerPoint

variable {Double : Type}

def holdsReq : ServerPoint Double → Bool
  | .waitingReq | .reading | .closingReq _ => true
  | _ => false

def holdsRes : ServerPoint Double → Bool
  | .waitingRes _ | .writing _ | .closingRes => true
  | _ => false

/-- A client has opened `FIFO_REQ`. -/
def releaseReq : ServerPoint Double → ServerPoint Double
  | .waitingReq => .reading
  | point => point

/-- A client has opened `FIFO_RES`. -/
def releaseRes : ServerPoint Double → ServerPoint Double
  | .waitingRes wynik => .writing wynik
  | point => point

end ServerPoint

namespace ClientPoint

def holdsReq : ClientPoint → Bool
  | .waitingReq | .writing | .closingReq => true
  | _ => false

def holdsRes : ClientPoint → Bool
  | .waitingRes | .reading | .closingRes => true
  | _ => false

/-- The server has opened `FIFO_REQ`. -/
def releaseReq : ClientPoint → ClientPoint
  | .waitingReq => .writing
  | point => point

/-- The server has opened `FIFO_RES`. -/
def releaseRes : ClientPoint → ClientPoint
  | .waitingRes => .reading
  | point => point

/-- After the write and before the end. -/
def asked : ClientPoint → Bool
  | .closingReq | .openingRes | .waitingRes | .reading | .closingRes => true
  | _ => false

end ClientPoint

namespace Client

variable {Double : Type}

def start (req : Interval Double) : Client Double where
  req := req
  point := .openingReq

def moveTo (client : Client Double) (point : ClientPoint) : Client Double :=
  { client with point }

def holdsReq (client : Client Double) : Bool := client.point.holdsReq

def holdsRes (client : Client Double) : Bool := client.point.holdsRes

def releaseReq (client : Client Double) : Client Double :=
  client.moveTo client.point.releaseReq

def releaseRes (client : Client Double) : Client Double :=
  client.moveTo client.point.releaseRes

end Client

section

variable {Double : Type}

/-- `main` of `program1.c`, as the client at position `index` runs it. -/
def clientStep (index : Nat) (service : Service Double)
    (client : Client Double) :
    Option (Service Double × Client Double × List (Event Double)) :=
  match client.point with
  | .openingReq =>
      some ({ service with server := service.server.releaseReq },
        client.moveTo
          (if service.server.holdsReq then .writing else .waitingReq), [])
  | .waitingReq => none
  | .writing =>
      if service.server.holdsReq then
        some ({ service with requests := service.requests ++ [client.req] },
          client.moveTo .closingReq, [.wrote index client.req])
      else
        some (service, client.moveTo .ended, [])
  | .closingReq => some (service, client.moveTo .openingRes, [])
  | .openingRes =>
      some ({ service with server := service.server.releaseRes },
        client.moveTo
          (if service.server.holdsRes then .reading else .waitingRes), [])
  | .waitingRes => none
  | .reading =>
      match service.responses with
      | wynik :: rest =>
          some ({ service with responses := rest },
            client.moveTo .closingRes, [.printed index wynik])
      | [] =>
          if service.server.holdsRes then none
          else some (service, client.moveTo .closingRes, [])
  | .closingRes => some (service, client.moveTo .ended, [])
  | .ended => none

def killClient (service : Service Double) (client : Client Double) :
    Option (Service Double × Client Double × List (Event Double)) :=
  if client.point = .ended then none
  else some (service, client.moveTo .ended, [])

namespace State

def reqHeld (state : State Double) : Bool :=
  state.server.holdsReq || state.clients.any Client.holdsReq

def resHeld (state : State Double) : Bool :=
  state.server.holdsRes || state.clients.any Client.holdsRes

/-- A FIFO nobody holds is empty. -/
def settle (state : State Double) : State Double :=
  { state with
    requests := if state.reqHeld then state.requests else []
    responses := if state.resHeld then state.responses else [] }

def moveClient (state : State Double) (index : Nat)
    (move : Service Double → Client Double →
      Option (Service Double × Client Double × List (Event Double))) :
    Option (State Double × List (Event Double)) :=
  (moveAt state.clients index (move state.toService)).map
    fun (service, clients, events) =>
      ({ toService := service, clients }, events)

end State

variable [Add Double] [Mul Double] [Div Double] [LT Double]
  [DecidableLT Double] [OfNat Double 0] [OfNat Double 1] [OfNat Double 4]

/-- The loop of `program2.c`. -/
def serverStep (state : State Double) : Option (State Double) :=
  match state.server with
  | .openingReq =>
      some { state with
        server :=
          if state.clients.any Client.holdsReq then .reading else .waitingReq
        clients := state.clients.map Client.releaseReq }
  | .waitingReq => none
  | .reading =>
      match state.requests with
      | req :: rest =>
          some { state with requests := rest, server := .closingReq (some req) }
      | [] =>
          if state.clients.any Client.holdsReq then none
          else some { state with server := .closingReq none }
  | .closingReq (some req) =>
      some { state with server := .computing req req.start 0 }
  | .closingReq none => some { state with server := .openingReq }
  | .computing req x result =>
      if x < req.stop then
        some { state with
          server :=
            .computing req (x + req.dx) (result + function x * req.dx) }
      else
        some { state with server := .openingRes result }
  | .openingRes wynik =>
      some { state with
        server :=
          if state.clients.any Client.holdsRes then .writing wynik
          else .waitingRes wynik
        clients := state.clients.map Client.releaseRes }
  | .waitingRes _ => none
  | .writing wynik =>
      if state.clients.any Client.holdsRes then
        some { state with
          responses := state.responses ++ [wynik], server := .closingRes }
      else
        some { state with server := .killed }
  | .closingRes => some { state with server := .openingReq }
  | .killed => none

/-- What a process does, before the kernel clears what nobody holds. -/
def act (state : State Double) :
    Action Double → Option (State Double × List (Event Double))
  | .start req =>
      some ({ state with clients := state.clients ++ [.start req] }, [])
  | .server => (serverStep state).map fun next => (next, [])
  | .client index => state.moveClient index (clientStep index)
  | .kill index => state.moveClient index killClient

def step (state : State Double) (action : Action Double) :
    Option (State Double × List (Event Double)) :=
  (act state action).map fun (next, events) => (next.settle, events)

def initial : State Double where
  server := .openingReq
  requests := []
  responses := []
  clients := []

variable (Double) in
def system : Machine (State Double) (Action Double) (Event Double) where
  start := initial
  step := step

end

end SysOp.Lab3
