import SysOp.Foundation.Machine
import SysOp.Lab7.Server

/-!
# The loop of `server/main.c`

The server takes one connection after the other, and `SIGINT` may be delivered
between any two of its steps.  It is handled without `SA_RESTART`, so a call in
which the server waits then fails, but not a call it has yet to make.

How many connections wait to be accepted is left to the system.
-/

namespace SysOp.Lab7

open SysOp.Foundation

/-- `testing` is the test of the loop; at `callingAccept` and `callingRecv` the
call has not been made yet, at `waitingAccept` and `waitingRecv` it blocks. -/
inductive Point where
  | testing
  | callingAccept
  | waitingAccept
  | acceptFailed
  | callingRecv (client : Nat)
  | waitingRecv (client : Nat)
  | recvFailed (client : Nat)
  | received (client : Nat) (rxBuffer : Bytes)
  | closing (client : Nat)
  | cleaningUp
  | returned
  deriving DecidableEq

/-- `clients` has what there is to `recv` from everyone who has connected:
`some []` if the client has closed without sending anything, `none` as long as
it does neither.  `accepted` of them have been accepted.

The value of `request_counter` is not known any more after an overflow. -/
structure State where
  keepRunning : Bool
  requestCounter : Option Int
  clients : List (Option Bytes)
  accepted : Nat
  point : Point

/-- `answered` has the new counter and what is sent. -/
inductive Event where
  | interrupted
  | accepted (client : Nat)
  | answered (client : Nat) (answer : Option (Int × Option Bytes))
  | closed (client : Nat)
  | reported (requestCounter : Option Int)
  deriving DecidableEq

/-- `fail` is a failure of `accept4` or `recv` for other reasons than `EINTR`. -/
inductive Action where
  | server
  | connect
  | send (client : Nat) (segment : Bytes)
  | fail
  | sigint
  deriving DecidableEq

namespace State

def goTo (state : State) (point : Point) : State :=
  { state with point }

/-- Some client waits to be accepted. -/
def Backlog (state : State) : Prop :=
  state.accepted < state.clients.length

instance (state : State) : Decidable state.Backlog :=
  inferInstanceAs (Decidable (_ < _))

/-- `accept4` returns the first client that waits. -/
def accept (state : State) : State :=
  { state with
    accepted := state.accepted + 1
    point := .callingRecv state.accepted }

def arrived (state : State) (client : Nat) : Option Bytes :=
  state.clients[client]?.join

end State

/-- The signal makes the call that blocks fail with `EINTR`. -/
def Point.interrupted : Point → Point
  | .waitingAccept => .acceptFailed
  | .waitingRecv client => .recvFailed client
  | point => point

/-- A call that is made or blocks fails. -/
def Point.failed : Point → Option Point
  | .callingAccept | .waitingAccept => some .acceptFailed
  | .callingRecv client | .waitingRecv client => some (.recvFailed client)
  | _ => none

/-- `handle_sigint` has run. -/
def State.interrupt (state : State) : State :=
  { state with keepRunning := false, point := state.point.interrupted }

def serverStep (conversion : IntConversion) (state : State) :
    Option (State × List Event) :=
  match state.point with
  | .testing =>
      some (state.goTo
        (if state.keepRunning then .callingAccept else .cleaningUp), [])
  | .callingAccept =>
      if state.Backlog then some (state.accept, [.accepted state.accepted])
      else some (state.goTo .waitingAccept, [])
  | .waitingAccept =>
      if state.Backlog then some (state.accept, [.accepted state.accepted])
      else none
  | .acceptFailed => some (state.goTo .testing, [])
  | .callingRecv client =>
      match state.arrived client with
      | some segment =>
          some (state.goTo
            (.received client (recv (BUFFER_SIZE - 1) segment)), [])
      | none => some (state.goTo (.waitingRecv client), [])
  | .waitingRecv client =>
      (state.arrived client).map fun segment =>
        (state.goTo (.received client (recv (BUFFER_SIZE - 1) segment)), [])
  | .received client rxBuffer =>
      if rxBuffer = [] then some (state.goTo (.closing client), [])
      else
        let answered := state.requestCounter.bind fun requestCounter =>
          answer requestCounter (parse conversion rxBuffer)
        some ({ state with
            requestCounter := answered.map Prod.fst
            point := .closing client }, [.answered client answered])
  | .recvFailed client | .closing client =>
      some (state.goTo .testing, [.closed client])
  | .cleaningUp =>
      some (state.goTo .returned, [.reported state.requestCounter])
  | .returned => none

def step (conversion : IntConversion) (state : State) :
    Action → Option (State × List Event)
  | .server => serverStep conversion state
  | .connect => some ({ state with clients := state.clients ++ [none] }, [])
  | .send client segment =>
      if state.clients[client]? = some none then
        some ({ state with
          clients := state.clients.set client (some segment) }, [])
      else none
  | .fail => state.point.failed.map fun point => (state.goTo point, [])
  | .sigint => some (state.interrupt, [.interrupted])

def initial : State where
  keepRunning := true
  requestCounter := some 0
  clients := []
  accepted := 0
  point := .testing

def server (conversion : IntConversion) : Machine State Action Event where
  start := initial
  step := step conversion

end SysOp.Lab7
