import LoadServer.Network.Host
import LoadServer.Server.State

/-! Clients that take steps one after another at a server that is given the time it needs. -/

namespace LoadServer

/-- A step of a client, whose connections are told apart by the ports it connects from. -/
inductive ClientStep where
  | connect (port : UInt16)
  | send (port : UInt16) (bytes : Bytes)
  /-- End the sending side. -/
  | shutdown (port : UInt16)
  /-- End the connection. -/
  | close (port : UInt16)
  /-- Receive until the server ends the connection. -/
  | receive (port : UInt16)
  /-- Look whether something comes within a short time. -/
  | watch (port : UInt16)
  deriving DecidableEq, Repr

/-- What a step of a client shows. -/
inductive StepResult where
  | connected
  | sent
  | shut
  | closed
  /-- The bytes that came before the end. -/
  | received (bytes : Bytes)
  /-- Nothing came. -/
  | quiet
  /-- Something came. -/
  | arrived
  /-- The end came. -/
  | ended
  /-- The connection did not get through. -/
  | unreachable
  /-- The client has no such connection, or has one already. -/
  | misused
  /-- The server will never end the connection. -/
  | stuck
  deriving DecidableEq, Repr

namespace ClientStep

/-- The endpoint of a client on the server's own host. -/
def endpoint (port : UInt16) : Endpoint := ⟨.loopback, port⟩

/-- How long a client watches, in milliseconds. -/
def watchMillis : Nat := 30

end ClientStep

namespace State

/-- What a connection still asks of the server. -/
def burden (connection : Connection) : Nat :=
  match connection.phase with
  | .waiting => 4
  | .reading => 2
  | .working _ => 1
  | .finished _ => 0

/-- What is still asked of the server. -/
def totalBurden (state : State) : Nat :=
  state.connections.foldr (fun connection total => burden connection + total)
    (if state.admitting then 0 else 1)

/-- What the handler of a connection can do without waiting. -/
def handlerEvent? (connection : Connection) : Option Event :=
  match connection.phase with
  | .reading => if connection.isReady then some (.read connection.peer) else none
  | .working 0 => some (.finish connection.peer {})
  | _ => none

/-- What the server can do without waiting. -/
def serverEvent? (state : State) : Option Event :=
  match state.connections.findSome? handlerEvent? with
  | some event => some event
  | none =>
    if state.acquire?.isSome then some .acquire
    else if (state.accept? none).isSome then some (.accept none)
    else none

/-- The server does all that it can without waiting. -/
def settle (state : State) : State :=
  match state.serverEvent?.bind state.step? with
  | none => state
  | some next => if next.totalBurden < state.totalBurden then next.settle else state
termination_by state.totalBurden

/-- The least time that a handler at work still needs. -/
def shortestLeft? (state : State) : Option Nat :=
  (state.connections.filterMap fun connection =>
    match connection.phase with
    | .working left => some left
    | _ => none).min?

/-- Whether the server has ended the connection of a client. -/
def hasEnded (state : State) (peer : Endpoint) : Bool :=
  ((state.connection? peer).bind Connection.outstanding?).isSome

/-- The server works until it has ended the connection of a client, or has nothing left to do. -/
def await (state : State) (peer : Endpoint) : State :=
  if state.hasEnded peer then state
  else
    match state.shortestLeft? with
    | none => state
    | some millis =>
      let next := (state.elapse millis).settle
      if next.totalBurden < state.totalBurden then next.await peer else state
termination_by state.totalBurden

/-- The server works for some milliseconds. -/
def awaitFor (state : State) (millis : Nat) : State :=
  match state.shortestLeft? with
  | none => state
  | some least =>
    if least < millis then
      let next := (state.elapse least).settle
      if next.totalBurden < state.totalBurden then next.awaitFor (millis - least) else state
    else (state.elapse millis).settle
termination_by state.totalBurden

/-- The failures of the first attempts to accept a connection. -/
def failAccepts (state : State) : List IoFault → State
  | [] => state
  | fault :: rest =>
    match state.acquire?.bind (·.acceptFailed? fault) with
    | none => state
    | some next => next.failAccepts rest

/-- A client's own step, as an event at the server. -/
def clientEvent (state : State) (event : Event) (result : StepResult) : StepResult × State :=
  match state.step? event with
  | none => (.misused, state)
  | some next => (result, next.settle)

/-- One step of a client. -/
def clientStep (host : Host) (state : State) : ClientStep → StepResult × State
  | .connect port =>
    if host.isolated then (.unreachable, state)
    else state.clientEvent (.connect (ClientStep.endpoint port)) .connected
  | .send port bytes => state.clientEvent (.send (ClientStep.endpoint port) bytes) .sent
  | .shutdown port => state.clientEvent (.shutdown (ClientStep.endpoint port)) .shut
  | .close port => state.clientEvent (.close (ClientStep.endpoint port)) .closed
  | .receive port =>
    let peer := ClientStep.endpoint port
    let served := state.await peer
    match (served.connection? peer).bind Connection.outstanding? with
    | none => (.stuck, served)
    | some bytes => served.clientEvent (.receive peer) (.received bytes)
  | .watch port =>
    let peer := ClientStep.endpoint port
    let served := if state.hasEnded peer then state else state.awaitFor ClientStep.watchMillis
    match (served.connection? peer).bind Connection.outstanding? with
    | none => (.quiet, served)
    | some [] => (.ended, served)
    | some (_ :: _) => (.arrived, served)

/-- The steps of a client, one after another. -/
def clientSteps (host : Host) (state : State) : List ClientStep → List StepResult × State
  | [] => ([], state)
  | step :: rest =>
    let (result, next) := state.clientStep host step
    let (results, last) := next.clientSteps host rest
    (result :: results, last)

end State

/-- A server takes the failures of its first attempts to accept, and then serves a client that
takes its steps. -/
def Server.play (server : Server) (host : Host) (failures : List IoFault)
    (steps : List ClientStep) : List StepResult × State :=
  ((State.initial server).failAccepts failures).settle.clientSteps host steps

end LoadServer
