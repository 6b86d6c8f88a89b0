import LoadServer.Proofs.Connection.Handler
import LoadServer.Proofs.Server.Steps

/-!
What handlers and clients do. Main statement: an event outside of the accept loop does the same in
all states with the same connections, whatever has been reported, whatever permits are free and
however far the accept loop is.
-/

namespace LoadServer

/-- Whether an event is one of the accept loop. -/
def Event.isAdmission : Event → Bool
  | .acquire => true
  | .acceptFailed _ => true
  | .accept _ => true
  | _ => false

/-- Whether a record is one of the accept loop. -/
def LogRecord.isAdmission : LogRecord → Bool
  | .accepted _ => true
  | .noDelayFailed _ _ => true
  | .acceptFailed _ => true
  | _ => false

/-- The failure of an accept that an event is. -/
def Event.acceptFault? : Event → Option IoFault
  | .acceptFailed fault => some fault
  | _ => none

/-- The failure of an accept that is reported. -/
def LogRecord.acceptFault? : LogRecord → Option IoFault
  | .acceptFailed fault => some fault
  | _ => none

/-- What a handler reports at its end. -/
def Handling.closing (peer : Endpoint) (handling : Handling) : List LogRecord :=
  match handling.outcome with
  | .error fault => [.abandoned peer fault]
  | .ok () => []

/-- A handler accepts nothing at its end. -/
theorem Handling.isAdmission_of_mem_closing {peer : Endpoint} {handling : Handling}
    {entry : LogRecord} (member : entry ∈ handling.closing peer) : entry.isAdmission = false := by
  -- A connection that ends well logs nothing at its end, and a failed one its failure.
  unfold closing at member
  cases ended : handling.outcome with
  | ok => simp [ended] at member
  | error fault =>
    simp only [ended, List.mem_singleton] at member
    rw [member]
    rfl

/-- A handler accepts nothing while it serves its connection. -/
theorem isAdmission_of_mem_log {factor : Factor} {script : Script} {entry : LogRecord}
    (member : entry ∈ (handle factor script).log) : entry.isAdmission = false := by
  -- All that it reports is its request.
  unfold handle at member
  dsimp only at member
  split at member
  · cases member
  · split at member
    · cases member
    · rw [log_respond, List.mem_singleton] at member
      rw [member]
      rfl

/-- What an event outside of the accept loop does to the connections, what it reports, and whether
it gives a permit back. -/
structure Effect where
  connections : List Connection
  entries : List LogRecord := []
  frees : Bool := false
  outside : ∀ entry ∈ entries, entry.isAdmission = false := by simp

namespace State

variable {state next : State} {event : Event} {peer : Endpoint}

/-- A state in which something has been done. -/
def apply (state : State) (effect : Effect) : State :=
  { state with
    connections := effect.connections
    log := state.log ++ effect.entries
    permits := if effect.frees then state.permits.map Permits.release else state.permits }

/-- What the end of a handler does. -/
def ending (state : State) (peer : Endpoint) (handling : Handling) : Effect where
  connections :=
    (state.update peer fun found => { found with phase := .finished handling }).connections
  entries := handling.closing peer
  frees := true
  outside _ := Handling.isAdmission_of_mem_closing

/-- A handler that ends reports its failure, if there is one, and gives its permit back. -/
theorem conclude_eq (state : State) (peer : Endpoint) (handling : Handling) :
    state.conclude peer handling = state.apply (state.ending peer handling) := by
  -- Both outcomes free the permit and end the handler; only the failure adds a record.
  cases ended : handling.outcome <;>
    simp [conclude, apply, ending, Handling.closing, ended, release, note, update]

/-- A handler that ends adds its failure to the log, if there is one. -/
theorem log_conclude (state : State) (peer : Endpoint) (handling : Handling) :
    (state.conclude peer handling).log = state.log ++ handling.closing peer := by
  -- The ending adds its records to the log and changes the rest of the state elsewhere.
  rw [conclude_eq]
  rfl

/-- The end of a handler is told by the connections alone. -/
theorem ending_congr {other : State} (same : other.connections = state.connections)
    (peer : Endpoint) (handling : Handling) :
    other.ending peer handling = state.ending peer handling := by
  -- The ending looks at the connections alone.
  simp only [ending, update, same]

/-- The connection of a client is found among the connections alone. -/
theorem connection?_congr {other : State} (same : other.connections = state.connections)
    (peer : Endpoint) : other.connection? peer = state.connection? peer := by
  -- The search goes through the connections alone.
  rw [connection?, connection?, same]

/-- Changing the connection of a client is a change of the connections alone. -/
theorem update_eq (state : State) (peer : Endpoint) (change : Connection → Connection) :
    state.update peer change =
      state.apply { connections := (state.update peer change).connections } := by
  -- An update of a connection is an effect that logs nothing and frees nothing.
  simp [update, apply]

/-- What a handler does that takes its request, or learns that there is none. -/
theorem exists_proceed (state : State) (peer : Endpoint) (factor : Factor) (script : Script) :
    ∃ effect : Effect, ∀ other : State, other.connections = state.connections →
      other.proceed peer (handle factor script) = other.apply effect := by
  -- A handler that fails at once ends with its step, and one that goes on has work to do.
  cases outcome : (handle factor script).outcome with
  | error fault =>
    refine ⟨{
      connections := (state.ending peer (handle factor script)).connections
      entries := (handle factor script).log ++ (handle factor script).closing peer
      frees := true
      outside := fun entry member => ?_ }, fun other same => ?_⟩
    · rcases List.mem_append.mp member with noted | closing
      · exact isAdmission_of_mem_log noted
      · exact Handling.isAdmission_of_mem_closing closing
    · simp [proceed, outcome, conclude_eq, apply, ending, update, same]
  | ok =>
    refine ⟨{
      connections := (state.update peer fun found =>
        { found with phase := .working (handle factor script).slept }).connections
      entries := (handle factor script).log
      outside := fun _ => isAdmission_of_mem_log }, fun other same => ?_⟩
    simp [proceed, outcome, apply, update, same]

/-- An event outside of the accept loop does the same wherever the connections are the same. -/
theorem exists_effect (outside : event.isAdmission = false)
    (stepped : state.step? event = some next) :
    ∃ effect : Effect, next = state.apply effect ∧
      ∀ other : State, other.factor = state.factor → other.connections = state.connections →
        other.step? event = some (other.apply effect) := by
  -- It is enough to tell what the event does in every such state, this one among them.
  suffices alike : ∃ effect : Effect, ∀ other : State, other.factor = state.factor →
      other.connections = state.connections → other.step? event = some (other.apply effect) by
    obtain ⟨effect, does⟩ := alike
    exact ⟨effect, Option.some.inj (stepped.symm.trans (does state rfl rfl)), does⟩
  -- Clients change their own connections and report nothing.
  have quiet {peer : Endpoint} {change : Connection → Connection}
      (does : ∀ other : State, other.connections = state.connections →
        other.step? event = some (other.update peer change)) :
      ∃ effect : Effect, ∀ other : State, other.factor = state.factor →
        other.connections = state.connections → other.step? event = some (other.apply effect) := by
    refine ⟨{ connections := (state.update peer change).connections }, fun other _ same => ?_⟩
    rw [does other same, update_eq, update, update, same]
  cases event with
  | acquire | acceptFailed | accept => cases outside
  | read peer =>
    obtain ⟨connection, found, reading, ready, -⟩ := read?_eq_some_iff.mp stepped
    obtain ⟨effect, does⟩ := exists_proceed state peer state.factor
      { reads := [.data connection.sent] }
    refine ⟨effect, fun other factor same => ?_⟩
    refine read?_eq_some_iff.mpr ⟨connection, ?_, reading, ready, ?_⟩
    · rw [connection?_congr same, found]
    · rw [factor]
      exact does other same
  | readFailed peer fault =>
    obtain ⟨connection, found, reading, final, -⟩ := readFailed?_eq_some_iff.mp stepped
    refine ⟨state.ending peer (handle state.factor { reads := [.fail fault] }),
      fun other factor same => ?_⟩
    refine readFailed?_eq_some_iff.mpr ⟨connection, ?_, reading, final, ?_⟩
    · rw [connection?_congr same, found]
    · rw [conclude_eq, ending_congr same, factor]
  | finish peer sequel =>
    obtain ⟨connection, found, spent, -⟩ := finish?_eq_some_iff.mp stepped
    refine ⟨state.ending peer (connection.served state.factor sequel),
      fun other factor same => ?_⟩
    refine finish?_eq_some_iff.mpr ⟨connection, ?_, spent, ?_⟩
    · rw [connection?_congr same, found]
    · rw [conclude_eq, ending_congr same, factor]
  | elapse millis =>
    refine ⟨{ connections := (state.elapse millis).connections }, fun other _ same => ?_⟩
    simp [step?, elapse, apply, same]
  | connect peer =>
    obtain ⟨free, -⟩ := connect?_eq_some_iff.mp stepped
    refine ⟨{ connections := state.connections ++ [{ peer := peer }] }, fun other _ same => ?_⟩
    refine connect?_eq_some_iff.mpr ⟨?_, ?_⟩
    · rw [connection?_congr same, free]
    · simp [apply, same]
  | send peer bytes =>
    obtain ⟨connection, found, sending, -⟩ := send?_eq_some_iff.mp stepped
    exact quiet fun other same =>
      send?_eq_some_iff.mpr ⟨connection, by rw [connection?_congr same, found], sending, rfl⟩
  | shutdown peer =>
    obtain ⟨connection, found, isOpen, -⟩ := shutdown?_eq_some_iff.mp stepped
    exact quiet fun other same =>
      shutdown?_eq_some_iff.mpr ⟨connection, by rw [connection?_congr same, found], isOpen, rfl⟩
  | close peer =>
    obtain ⟨connection, found, isOpen, -⟩ := close?_eq_some_iff.mp stepped
    exact quiet fun other same =>
      close?_eq_some_iff.mpr ⟨connection, by rw [connection?_congr same, found], isOpen, rfl⟩
  | receive peer =>
    obtain ⟨connection, bytes, found, isOpen, outstanding, -⟩ := receive?_eq_some_iff.mp stepped
    exact quiet fun other same => receive?_eq_some_iff.mpr
      ⟨connection, bytes, by rw [connection?_congr same, found], isOpen, outstanding, rfl⟩

/-- What the log shows of the accept loop grows by failed accepts alone, except where a connection
is accepted. -/
theorem filterMap_log_of_step? {Shown : Type} {shown : LogRecord → Option Shown}
    (about : ∀ entry : LogRecord, entry.isAdmission = false → shown entry = none)
    (other : ∀ fault, event ≠ .accept fault) (stepped : state.step? event = some next) :
    next.log.filterMap shown = state.log.filterMap shown ++
      (event.acceptFault?.bind fun fault => shown (.acceptFailed fault)).toList := by
  cases outside : event.isAdmission with
  | false =>
    -- Handlers and clients do not accept.
    obtain ⟨effect, rfl, -⟩ := exists_effect outside stepped
    have nothing : event.acceptFault? = none := by cases event <;> first | rfl | cases outside
    have hidden : effect.entries.filterMap shown = [] :=
      List.filterMap_eq_nil_iff.mpr fun entry member => about entry (effect.outside entry member)
    simp [apply, hidden, nothing]
  | true =>
    cases event with
    | acquire =>
      obtain ⟨-, -, granted⟩ := acquire?_eq_some_iff.mp stepped
      rcases granted with ⟨-, rfl⟩ | ⟨permits, -, ⟨left, -, rfl⟩ | ⟨-, rfl⟩⟩ <;>
        simp [Event.acceptFault?]
    | acceptFailed fault =>
      obtain ⟨-, rfl⟩ := acceptFailed?_eq_some_iff.mp stepped
      cases seen : shown (.acceptFailed fault) <;>
        simp [note, release, Event.acceptFault?, seen]
    | accept fault => exact absurd rfl (other fault)
    | _ => cases outside

/-- Whether accepted streams are asked is the same all the time. -/
theorem nodelay_of_step? (stepped : state.step? event = some next) :
    next.nodelay = state.nodelay := by
  cases outside : event.isAdmission with
  | false =>
    -- Handlers and clients have nothing to do with it.
    obtain ⟨effect, rfl, -⟩ := exists_effect outside stepped
    rfl
  | true =>
    cases event with
    | acquire =>
      obtain ⟨-, -, granted⟩ := acquire?_eq_some_iff.mp stepped
      rcases granted with ⟨-, rfl⟩ | ⟨permits, -, ⟨left, -, rfl⟩ | ⟨-, rfl⟩⟩ <;> rfl
    | acceptFailed fault =>
      obtain ⟨-, rfl⟩ := acceptFailed?_eq_some_iff.mp stepped
      rfl
    | accept fault =>
      obtain ⟨-, connection, -, rfl⟩ := accept?_eq_some_iff.mp stepped
      rfl
    | _ => cases outside

/-- Accepted streams are asked as the settings of the server say. -/
theorem Reachable.nodelay_eq {server : Server} (reached : Reachable server state) :
    state.nodelay = server.settings.nodelay := by
  -- The setting is copied at the start, and no step changes it.
  induction reached with
  | initial => rfl
  | step _ stepped ih => rw [nodelay_of_step? stepped, ih]

/-- Accepts are reported to have failed as they fail. -/
theorem acceptFaults_of_step? (stepped : state.step? event = some next) :
    next.log.filterMap LogRecord.acceptFault? =
      state.log.filterMap LogRecord.acceptFault? ++ event.acceptFault?.toList := by
  by_cases accepting : ∃ fault, event = .accept fault
  · -- A connection that is accepted is no failure, whatever comes of asking its stream.
    obtain ⟨fault, rfl⟩ := accepting
    obtain ⟨-, connection, -, rfl⟩ := accept?_eq_some_iff.mp stepped
    cases NoDelay.ask state.nodelay fault <;>
      simp [launch, NoDelay.reports, Event.acceptFault?, LogRecord.acceptFault?]
  · have about (entry : LogRecord) (outside : entry.isAdmission = false) :
        entry.acceptFault? = none := by
      cases entry <;> first | rfl | cases outside
    rw [filterMap_log_of_step? about (not_exists.mp accepting) stepped]
    cases event.acceptFault? <;> rfl

/-- The failed accepts of some events and one more. -/
theorem acceptFaults_append (events : List Event) (event : Event) :
    (events ++ [event]).filterMap Event.acceptFault? =
      events.filterMap Event.acceptFault? ++ event.acceptFault?.toList := by
  -- One more event has at most one more failure, at the end.
  rw [List.filterMap_append]
  cases fault : event.acceptFault? <;> simp [fault]

/-- The accepts that are reported to have failed are those that have failed in a run, in order. -/
theorem acceptFaults_of_run? {server : Server} {events : List Event}
    (ran : (initial server).run? events = some state) :
    state.log.filterMap LogRecord.acceptFault? = events.filterMap Event.acceptFault? := by
  -- Every step logs the failures of its own event, in the order of the events.
  refine (run?_induction (motive := fun events state =>
    state.log.filterMap LogRecord.acceptFault? = events.filterMap Event.acceptFault?)
    rfl ?_ ran).2
  intro events state event next _ before stepped
  rw [acceptFaults_of_step? stepped, before, acceptFaults_append]

end State

end LoadServer
