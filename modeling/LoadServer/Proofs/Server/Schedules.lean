import LoadServer.Proofs.Server.OwnTag
import LoadServer.Proofs.Server.Settling

/-!
Clients that take steps at a server which works as it likes in between. Main statement: the server
that is given the time it needs after every step is one such server.
-/

namespace LoadServer

/-- The client that takes a step in an event. -/
def Event.client? : Event → Option Endpoint
  | .connect peer => some peer
  | .send peer _ => some peer
  | .shutdown peer => some peer
  | .close peer => some peer
  | .receive peer => some peer
  | _ => none

/-- Whether the stream of a client or its task fails in an event. -/
def Event.breaks (peer : Endpoint) (event : Event) : Bool :=
  match event with
  | .readFailed other _ => other == peer
  | .finish other sequel => event.hampers peer || (other == peer && sequel.task.isSome)
  | _ => false

/-- No stream and no task fails in the step of a client. -/
theorem Event.breaks_of_client? {event : Event} {client : Endpoint}
    (own : event.client? = some client) (peer : Endpoint) : event.breaks peer = false := by
  -- They fail in steps of handlers.
  cases event with
  | readFailed | finish => cases own
  | _ => rfl

namespace ClientStep

/-- The port that a step is about. -/
def port : ClientStep → UInt16
  | .connect port => port
  | .send port _ => port
  | .shutdown port => port
  | .close port => port
  | .receive port => port
  | .watch port => port

/-- The client's own part of a step that needs no answer, and what the step then shows. -/
def act? : ClientStep → Option (Event × StepResult)
  | .connect port => some (.connect (endpoint port), .connected)
  | .send port bytes => some (.send (endpoint port) bytes, .sent)
  | .shutdown port => some (.shutdown (endpoint port), .shut)
  | .close port => some (.close (endpoint port), .closed)
  | .receive _ => none
  | .watch _ => none

/-- A client takes its step by itself. -/
theorem client?_of_act? {step : ClientStep} {event : Event} {result : StepResult}
    (act : step.act? = some (event, result)) : event.client? = some (endpoint step.port) := by
  -- The two steps that wait are the ones without an event of their own.
  cases step with
  | receive | watch => cases act
  | _ =>
    cases act
    rfl

end ClientStep

namespace State

/-- A step in which no client takes part, and neither the stream nor the task of one client fails.
-/
def Works (peer : Endpoint) (state next : State) : Prop :=
  ∃ event : Event, event.client? = none ∧ event.breaks peer = false ∧
    state.step? event = some next

/-- Any number of steps in which no client takes part, and neither the stream nor the task of one
client fails. -/
abbrev WorksOn (peer : Endpoint) : State → State → Prop :=
  Relation.ReflTransGen (Works peer)

/-- What a step of a client shows, and the state after it, if the server does nothing meanwhile. -/
inductive Takes (host : Host) (state : State) : ClientStep → StepResult → State → Prop where
  /-- No connection gets through to a host without a network. -/
  | unreachable {port : UInt16} (isolated : host.isolated = true) :
      Takes host state (.connect port) .unreachable state
  | acted {step : ClientStep} {event : Event} {result : StepResult} {next : State}
      (act : step.act? = some (event, result))
      (through : host.isolated = true → ∀ port, step ≠ .connect port)
      (stepped : state.step? event = some next) : Takes host state step result next
  | misused {step : ClientStep} {event : Event} {result : StepResult}
      (act : step.act? = some (event, result))
      (through : host.isolated = true → ∀ port, step ≠ .connect port)
      (blocked : state.step? event = none) : Takes host state step .misused state
  /-- The client receives until the end, to which the server has come. -/
  | received {port : UInt16} {bytes : Bytes} {next : State}
      (outstanding : (state.connection? (ClientStep.endpoint port)).bind Connection.outstanding? =
        some bytes)
      (stepped : state.step? (.receive (ClientStep.endpoint port)) = some next) :
      Takes host state (.receive port) (.received bytes) next
  /-- The client cannot receive on a connection that it has closed. -/
  | refused {port : UInt16} {bytes : Bytes}
      (outstanding : (state.connection? (ClientStep.endpoint port)).bind Connection.outstanding? =
        some bytes)
      (blocked : state.step? (.receive (ClientStep.endpoint port)) = none) :
      Takes host state (.receive port) .misused state
  /-- The client waits for an end that never comes while neither its stream nor its task fails. -/
  | stuck {port : UInt16}
      (never : ∀ later, state.WorksOn (ClientStep.endpoint port) later →
        later.hasEnded (ClientStep.endpoint port) = false) :
      Takes host state (.receive port) .stuck state
  /-- What a client sees within a time is up to how far the server gets. -/
  | watched {port : UInt16} (result : StepResult) : Takes host state (.watch port) result state

/-- What the steps of clients show one after another, and the state after them, if the server works
as it likes before each of them, and neither the stream nor the task of one client fails. -/
inductive Plays (host : Host) (peer : Endpoint) :
    State → List ClientStep → List StepResult → State → Prop where
  | done (state : State) : Plays host peer state [] [] state
  | work {state next last : State} {steps : List ClientStep} {results : List StepResult}
      (worked : state.Works peer next) (later : Plays host peer next steps results last) :
      Plays host peer state steps results last
  | take {state next last : State} {step : ClientStep} {steps : List ClientStep}
      {result : StepResult} {results : List StepResult} (taken : state.Takes host step result next)
      (later : Plays host peer next steps results last) :
      Plays host peer state (step :: steps) (result :: results) last

variable {state next last : State} {peer : Endpoint} {host : Host}

/-- A step of a client leaves the server as it is, or it is the client's own event there. -/
theorem Takes.eq_or_step? {step : ClientStep} {result : StepResult}
    (taken : state.Takes host step result next) :
    next = state ∨ ∃ event : Event, event.client? = some (ClientStep.endpoint step.port) ∧
      state.step? event = some next := by
  -- A step that takes nothing from the server leaves the state as it was.
  cases taken with
  | acted act _ stepped => exact .inr ⟨_, ClientStep.client?_of_act? act, stepped⟩
  | received _ stepped => exact .inr ⟨_, rfl, stepped⟩
  | _ => exact .inl rfl

/-- What the server can come to stays so when a client takes a step. -/
theorem Reachable.takes {server : Server} {step : ClientStep} {result : StepResult}
    (reached : Reachable server state) (taken : state.Takes host step result next) :
    Reachable server next := by
  -- A step is at most one event.
  obtain rfl | ⟨event, -, stepped⟩ := taken.eq_or_step?
  · exact reached
  · exact reached.step stepped

/-- The server can work before the steps of clients. -/
theorem Plays.of_worksOn {steps : List ClientStep} {results : List StepResult}
    (worked : state.WorksOn peer next) (later : next.Plays host peer steps results last) :
    state.Plays host peer steps results last := by
  -- One step of the server after another, from the last one back.
  induction worked using Relation.ReflTransGen.head_induction_on with
  | refl => exact later
  | head first _ ih => exact .work first ih

/-- Every step shows something. -/
theorem Plays.length_eq {steps : List ClientStep} {results : List StepResult}
    (played : state.Plays host peer steps results last) : results.length = steps.length := by
  -- Only a step has a result, and the work around it has none.
  induction played with
  | done => rfl
  | work _ _ ih => exact ih
  | take _ _ ih => rw [List.length_cons, List.length_cons, ih]

/-- What the server can come to stays so while it works. -/
theorem Reachable.worksOn {server : Server} (reached : Reachable server state)
    (worked : state.WorksOn peer next) : Reachable server next := by
  -- Each piece of work is one event more.
  induction worked with
  | refl => exact reached
  | tail _ last ih =>
    obtain ⟨event, -, -, stepped⟩ := last
    exact ih.step stepped

/-! ## Settling and waiting are work -/

/-- The server settles without a client, and without a failing stream or task. -/
theorem worksOn_settle (state : State) (peer : Endpoint) : state.WorksOn peer state.settle := by
  -- The server settles by events of its own, and none of them lets a stream or a task fail.
  refine settle_induction .refl ?_
  intro before event after worked found stepped
  refine worked.tail ⟨event, ?_, ?_, stepped⟩
  · obtain ⟨connection, -, asked⟩ | ⟨rfl, -⟩ | ⟨rfl, -⟩ := serverEvent?_cases found
    · obtain ⟨-, -, rfl⟩ | ⟨-, rfl⟩ := handlerEvent?_eq_some_iff.mp asked <;> rfl
    · rfl
    · rfl
  · obtain ⟨connection, -, asked⟩ | ⟨rfl, -⟩ | ⟨rfl, -⟩ := serverEvent?_cases found
    · -- The response is taken whole where the stream has nothing to say against it.
      obtain ⟨-, -, rfl⟩ | ⟨-, rfl⟩ := handlerEvent?_eq_some_iff.mp asked
      · rfl
      · simp [Event.breaks, Event.hampers, takenOf, takingStop?]
    · rfl
    · rfl

/-- Passing time is work. -/
theorem worksOn_elapse (state : State) (peer : Endpoint) (millis : Nat) :
    state.WorksOn peer (state.elapse millis) :=
  .single ⟨.elapse millis, rfl, rfl, rfl⟩

/-- The server waits for a connection by letting time pass and settling. -/
theorem worksOn_await (state : State) (awaited peer : Endpoint) :
    state.WorksOn peer (state.await awaited) := by
  -- Each round lets the shortest work pass and settles, until the handler has ended.
  fun_induction await state awaited with
  | case1 => exact .refl
  | case2 => exact .refl
  | case3 state unended millis shortest next less ih =>
    exact ((worksOn_elapse state peer millis).trans (worksOn_settle _ peer)).trans ih
  | case4 => exact .refl

/-- The server works for some milliseconds by letting time pass and settling. -/
theorem worksOn_awaitFor (state : State) (millis : Nat) (peer : Endpoint) :
    state.WorksOn peer (state.awaitFor millis) := by
  -- Each round passes the shortest work, and the last one what is left of the time.
  fun_induction awaitFor state millis with
  | case1 => exact .refl
  | case2 state millis least shortest sooner next less ih =>
    exact ((worksOn_elapse state peer least).trans (worksOn_settle _ peer)).trans ih
  | case3 => exact .refl
  | case4 state millis least shortest later =>
    exact (worksOn_elapse state peer millis).trans (worksOn_settle _ peer)

/-- Failures of the first attempts to accept are work. -/
theorem worksOn_failAccepts (state : State) (failures : List IoFault) (peer : Endpoint) :
    state.WorksOn peer (state.failAccepts failures) := by
  induction failures generalizing state with
  | nil => exact .refl
  | cons fault rest ih =>
    -- Each failure takes a permit before it, and ends the row if there is none.
    unfold failAccepts
    cases failed : state.acquire?.bind (·.acceptFailed? fault) with
    | none => exact .refl
    | some next =>
      obtain ⟨granted, acquired, gone⟩ := Option.bind_eq_some_iff.mp failed
      have first : state.Works peer granted := ⟨.acquire, rfl, rfl, acquired⟩
      have second : granted.Works peer next := ⟨.acceptFailed fault, rfl, rfl, gone⟩
      exact .head first (.head second (ih next))

end State

end LoadServer
