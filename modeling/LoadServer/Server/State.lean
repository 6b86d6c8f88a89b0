import LoadServer.Connection.Handler
import LoadServer.Server.Basic

/-!
The server at work: an accept loop that takes a permit before each connection, one handler for
every accepted connection, and clients that connect, send, end and receive in any order.
-/

namespace LoadServer

/-- What came of asking the stream of a connection not to hold back what is sent. -/
inductive NoDelay where
  /-- It has not been asked. -/
  | unasked
  /-- It has agreed. -/
  | agreed
  /-- Asking has failed. -/
  | failed (fault : IoFault)
  deriving DecidableEq, Repr

namespace NoDelay

/-- Asks a stream if that is wanted, where asking fails in this way if it does. -/
def ask (wanted : Bool) (fault : Option IoFault) : NoDelay :=
  if wanted then
    match fault with
    | none => .agreed
    | some fault => .failed fault
  else .unasked

/-- Whether a stream holds nothing back. -/
def isOn : NoDelay → Bool
  | agreed => true
  | unasked => false
  | failed _ => false

/-- What is reported of asking the stream of a client. -/
def reports (peer : Endpoint) : NoDelay → List LogRecord
  | failed fault => [.noDelayFailed peer fault]
  | unasked => []
  | agreed => []

end NoDelay

/-- How far the server is with a connection. -/
inductive Phase where
  /-- It waits to be accepted. -/
  | waiting
  /-- Its handler waits for the rest of the request. -/
  | reading
  /-- Its handler spends the time of the request, of which some milliseconds are left. -/
  | working (left : Nat)
  /-- Its handler has ended, and with it the connection. -/
  | finished (handling : Handling)

/-- Whether a handler is live. -/
def Phase.isLive : Phase → Bool
  | .reading => true
  | .working _ => true
  | .waiting => false
  | .finished _ => false

/-- A phase after some milliseconds. -/
def Phase.after (millis : Nat) : Phase → Phase
  | .working left => .working (left - millis)
  | phase => phase

/-- A connection, known by the endpoint of its client. -/
structure Connection where
  peer : Endpoint
  /-- All that the client has sent. -/
  sent : Bytes := []
  /-- Whether the client has ended its sending side. -/
  ended : Bool := false
  /-- Whether the client has ended the whole connection. -/
  closed : Bool := false
  /-- All that the client has received. -/
  received : Bytes := []
  /-- What came of asking its stream not to hold back what is sent. -/
  noDelay : NoDelay := .unasked
  phase : Phase := .waiting

namespace Connection

/-- Whether a connection has been accepted. -/
def isAccepted (connection : Connection) : Bool :=
  match connection.phase with
  | .waiting => false
  | .reading => true
  | .working _ => true
  | .finished _ => true

/-- Whether the handler of a connection has a whole request, or will never have one. -/
def isReady (connection : Connection) : Bool :=
  connection.ended || Request.size ≤ connection.sent.length

/-- What the handler of a connection makes of all that has been sent, where this is what it meets
behind the request. -/
def served (factor : Factor) (connection : Connection) (sequel : Sequel) : Handling :=
  handle factor { sequel with reads := [.data connection.sent] }

/-- The bytes that a client has not received yet of a connection that has ended. -/
def outstanding? (connection : Connection) : Option Bytes :=
  match connection.phase with
  | .finished handling => some (handling.written.drop connection.received.length)
  | _ => none

end Connection

/-- The state of a server at work. -/
structure State where
  factor : Factor
  /-- Whether accepted streams are asked not to hold back what is sent. -/
  nodelay : Bool
  /-- The free permits, if connections are limited. -/
  permits : Option Permits
  /-- Whether the accept loop may accept a connection. -/
  admitting : Bool := false
  /-- Whether the accept loop has ended. -/
  stopped : Bool := false
  /-- The connections in the order in which they were made. -/
  connections : List Connection := []
  log : List LogRecord := []

/-- What happens at a server. -/
inductive Event where
  /-- The accept loop takes a permit. -/
  | acquire
  /-- The accept loop fails to accept a connection. -/
  | acceptFailed (fault : IoFault)
  /-- The accept loop accepts the connection that has waited longest, where asking its stream not to
  hold back what is sent fails in this way if it does. -/
  | accept (fault : Option IoFault)
  /-- A handler has its whole request, or reaches the end of what is sent. -/
  | read (peer : Endpoint)
  /-- A handler fails to read its request. -/
  | readFailed (peer : Endpoint) (fault : IoFault)
  /-- A handler has no time left to spend, and ends with what it meets behind its request. -/
  | finish (peer : Endpoint) (sequel : Sequel)
  /-- Some milliseconds pass. -/
  | elapse (millis : Nat)
  /-- A client connects. -/
  | connect (peer : Endpoint)
  /-- A client sends bytes. -/
  | send (peer : Endpoint) (bytes : Bytes)
  /-- A client ends its sending side. -/
  | shutdown (peer : Endpoint)
  /-- A client ends the whole connection. -/
  | close (peer : Endpoint)
  /-- A client receives what the server has sent it. -/
  | receive (peer : Endpoint)
  deriving DecidableEq, Repr

/-- Whether an event is a step that the server takes by itself. -/
def Event.isOwn : Event → Bool
  | .acquire | .accept _ | .read _ | .finish _ _ => true
  | _ => false

namespace State

/-- A server at work that no client has connected to yet. -/
def initial (server : Server) : State :=
  { factor := server.factor, nodelay := server.settings.nodelay, permits := server.permits }

/-- The connection of a client. -/
def connection? (state : State) (peer : Endpoint) : Option Connection :=
  state.connections.find? fun connection => connection.peer == peer

/-- The connection that has waited longest. -/
def firstWaiting? (state : State) : Option Connection :=
  state.connections.find? fun connection =>
    match connection.phase with
    | .waiting => true
    | _ => false

/-- Changes the connection of a client. -/
def update (state : State) (peer : Endpoint) (change : Connection → Connection) : State :=
  { state with
    connections := state.connections.map fun connection =>
      if connection.peer == peer then change connection else connection }

/-- Adds a record to the log. -/
def note (state : State) (entry : LogRecord) : State :=
  { state with log := state.log ++ [entry] }

/-- Gives a permit back, if connections are limited. -/
def release (state : State) : State :=
  { state with permits := state.permits.map Permits.release }

/-- The accept loop takes a permit, or needs none. -/
def acquire? (state : State) : Option State :=
  if state.admitting || state.stopped then none
  else
    match state.permits with
    | none => some { state with admitting := true }
    | some permits =>
      match permits.acquire with
      | .granted left => some { state with admitting := true, permits := some left }
      | .waiting => none
      | .refused => some { state with stopped := true }

/-- The accept loop fails to accept a connection and gives its permit back. -/
def acceptFailed? (state : State) (fault : IoFault) : Option State :=
  if state.admitting then
    some { (state.release.note (.acceptFailed fault)) with admitting := false }
  else none

/-- A connection gets its handler, and with it the permit, whatever came of asking its stream. -/
def launch (state : State) (peer : Endpoint) (noDelay : NoDelay) : State :=
  let started := state.update peer fun found =>
    { found with phase := .reading, noDelay := noDelay }
  { started with
    admitting := false
    log := state.log ++ .accepted peer :: noDelay.reports peer }

/-- The accept loop accepts a connection and asks its stream not to hold back what is sent, if that
is wanted. -/
def accept? (state : State) (fault : Option IoFault) : Option State :=
  if state.admitting then
    state.firstWaiting?.map fun connection =>
      state.launch connection.peer (.ask state.nodelay fault)
  else none

/-- A handler ends, reports how it failed if it did, and gives its permit back. -/
def conclude (state : State) (peer : Endpoint) (handling : Handling) : State :=
  let ended := (state.update peer fun found => { found with phase := .finished handling }).release
  match handling.outcome with
  | .error fault => ended.note (.abandoned peer fault)
  | .ok () => ended

/-- A handler that has read what there is goes on to spend the time of its request, or ends. -/
def proceed (state : State) (peer : Endpoint) (handling : Handling) : State :=
  let noted := { state with log := state.log ++ handling.log }
  match handling.outcome with
  | .error _ => noted.conclude peer handling
  | .ok () => noted.update peer fun found => { found with phase := .working handling.slept }

/-- A handler takes its request, as far as there is one. -/
def read? (state : State) (peer : Endpoint) : Option State := do
  let connection ← state.connection? peer
  match connection.phase with
  | .reading =>
    if connection.isReady then some (state.proceed peer (connection.served state.factor {}))
    else none
  | _ => none

/-- A handler fails to read, where an interruption is no failure. -/
def readFailed? (state : State) (peer : Endpoint) (fault : IoFault) : Option State := do
  let connection ← state.connection? peer
  match connection.phase with
  | .reading =>
    if fault.isInterruption then none
    else some (state.conclude peer (handle state.factor { reads := [.fail fault] }))
  | _ => none

/-- A handler that has no time left to spend sends its response, unless its task has failed, and
ends its connection. -/
def finish? (state : State) (peer : Endpoint) (sequel : Sequel) : Option State := do
  let connection ← state.connection? peer
  match connection.phase with
  | .working 0 => some (state.conclude peer (connection.served state.factor sequel))
  | _ => none

/-- Some milliseconds pass. -/
def elapse (state : State) (millis : Nat) : State :=
  { state with
    connections := state.connections.map fun connection =>
      { connection with phase := connection.phase.after millis } }

/-- A client connects from an endpoint that no connection has come from before, as endpoints are
not used again. Any number of connections can wait to be accepted. -/
def connect? (state : State) (peer : Endpoint) : Option State :=
  match state.connection? peer with
  | some _ => none
  | none => some { state with connections := state.connections ++ [{ peer := peer }] }

/-- A client sends bytes before it has ended its sending side. -/
def send? (state : State) (peer : Endpoint) (bytes : Bytes) : Option State := do
  let connection ← state.connection? peer
  if connection.ended then none
  else some (state.update peer fun found => { found with sent := found.sent ++ bytes })

/-- A client ends its sending side, which it may have done before. -/
def shutdown? (state : State) (peer : Endpoint) : Option State := do
  let connection ← state.connection? peer
  if connection.closed then none
  else some (state.update peer fun found => { found with ended := true })

/-- A client ends the whole connection. -/
def close? (state : State) (peer : Endpoint) : Option State := do
  let connection ← state.connection? peer
  if connection.closed then none
  else some (state.update peer fun found => { found with ended := true, closed := true })

/-- A client receives what the server has sent it before ending the connection. -/
def receive? (state : State) (peer : Endpoint) : Option State := do
  let connection ← state.connection? peer
  let bytes ← if connection.closed then none else connection.outstanding?
  some (state.update peer fun found => { found with received := found.received ++ bytes })

/-- The state after an event, if the event can happen. -/
def step? (state : State) : Event → Option State
  | .acquire => state.acquire?
  | .acceptFailed fault => state.acceptFailed? fault
  | .accept fault => state.accept? fault
  | .read peer => state.read? peer
  | .readFailed peer fault => state.readFailed? peer fault
  | .finish peer sequel => state.finish? peer sequel
  | .elapse millis => some (state.elapse millis)
  | .connect peer => state.connect? peer
  | .send peer bytes => state.send? peer bytes
  | .shutdown peer => state.shutdown? peer
  | .close peer => state.close? peer
  | .receive peer => state.receive? peer

/-- The state after some events, if they can happen one after another. -/
def run? (state : State) (events : List Event) : Option State :=
  events.foldlM step? state

/-- The states that a server can come to. -/
inductive Reachable (server : Server) : State → Prop where
  | initial : Reachable server (initial server)
  | step {state next : State} {event : Event} (reached : Reachable server state)
      (stepped : state.step? event = some next) : Reachable server next

/-- A state in which the server can take no step by itself. -/
def IsSettled (state : State) : Prop :=
  ∀ event : Event, event.isOwn = true → state.step? event = none

/-- The number of handlers that are live. -/
def live (state : State) : Nat :=
  state.connections.countP fun connection => connection.phase.isLive

end State

end LoadServer
