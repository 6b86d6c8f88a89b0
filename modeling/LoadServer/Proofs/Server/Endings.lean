import LoadServer.Proofs.Connection.Reading
import LoadServer.Proofs.Server.Reports

/-!
How handlers end. Main statement: after every run a handler is where it is due, as told by what its
client has sent and ended and by how reading and the task have failed.
-/

namespace LoadServer

/-- Why the handler of a client fails to read in an event, if it does. -/
def Event.readFault? (peer : Endpoint) : Event → Option IoFault
  | .readFailed other fault => if other == peer then some fault else none
  | _ => none

/-- Why the handler of a client has failed to read in some events, if it has. -/
def readFaultOf? (peer : Endpoint) (events : List Event) : Option IoFault :=
  events.findSome? (Event.readFault? peer)

/-- Whether a client has delivered a whole request: it has sent enough, and its handler has not
failed to read it. -/
def hasDelivered (events : List Event) (peer : Endpoint) : Bool :=
  decide (readFaultOf? peer events = none ∧ 144 ≤ (allSentBy peer events).length)

/-- Why reading has failed in some events and one more. -/
theorem readFaultOf?_append (peer : Endpoint) (events : List Event) (event : Event) :
    readFaultOf? peer (events ++ [event]) =
      (readFaultOf? peer events).or (event.readFault? peer) := by
  -- The first failure of the run so far stands; one more event counts only without one.
  rw [readFaultOf?, List.findSome?_append, List.findSome?_singleton]
  rfl

/-- An event about something else is no failure of reading for a client. -/
theorem Event.readFault?_of_elsewhere {event : Event} {peer : Endpoint}
    (elsewhere : event.concerns peer = false) : event.readFault? peer = none := by
  -- A failure of reading concerns the client whose stream it is.
  cases event <;> simp_all [concerns, readFault?]

/-- The failure that a connection has ended with, if it has. -/
def Handling.failure? (handling : Handling) : Option ConnectionFault :=
  match handling.outcome with
  | .error fault => some fault
  | .ok () => none

/-- A handler has failed for what its outcome says. -/
theorem Handling.failure?_eq_some_iff {handling : Handling} {fault : ConnectionFault} :
    handling.failure? = some fault ↔ handling.outcome = .error fault := by
  -- The failure is the outcome, with success left out.
  rw [failure?]
  cases handling.outcome <;> simp

/-- What a handler reports at its end is its failure. -/
theorem Handling.closing_eq (peer : Endpoint) (handling : Handling) :
    handling.closing peer = (handling.failure?.map (LogRecord.abandoned peer)).toList := by
  -- Success closes without a record, and a failure with the one that names it.
  rw [closing, failure?]
  cases handling.outcome <;> rfl

namespace Connection

variable {factor : Factor} {event : Event} {failed : Option IoFault}
  {connection before after : Connection}

/-- Why the handler of a connection has ended with a failure, if it has. -/
def failure? (connection : Connection) : Option ConnectionFault :=
  match connection.phase with
  | .finished handling => handling.failure?
  | _ => none

/-- How the handler of a connection can end, told from what its client has sent, whether it has
ended its sending side, and how reading has failed. -/
inductive Ends (connection : Connection) : Option IoFault → Handling → Prop where
  /-- Reading fails, and nothing is reported before that. -/
  | broken {fault : IoFault} {handling : Handling} (silent : handling.log = [])
      (outcome : handling.outcome = .error (.read fault)) : Ends connection (some fault) handling
  /-- The client ends its sending side too early. -/
  | short {handling : Handling} (ended : connection.ended = true)
      (few : connection.sent.length < Request.size) (silent : handling.log = [])
      (outcome : handling.outcome = .error (.read earlyEnd)) : Ends connection none handling
  /-- A whole request comes in and is reported, and only sending the response or the task can
  fail. -/
  | answered {handling : Handling} (enough : Request.size ≤ connection.sent.length)
      (reported : handling.log = requestReports connection.sent)
      (outcome : handling.outcome = .ok () ∨
        (∃ fault, handling.outcome = .error (.write fault)) ∨
        ∃ number fault, handling.outcome = .error (.task number fault)) :
      Ends connection none handling

/-- A handler is where it is due: it reads as long as reading has not failed, it spends time on a
whole request, and it ends in one of the possible ways. -/
structure IsDue (failed : Option IoFault) (connection : Connection) : Prop where
  unserved (before : connection.phase = .waiting ∨ connection.phase = .reading) : failed = none
  working (left : Nat) (works : connection.phase = .working left) :
    failed = none ∧ Request.size ≤ connection.sent.length
  finished (handling : Handling) (ended : connection.phase = .finished handling) :
    connection.Ends failed handling

/-- A handler that has less than a request to read at the end of the stream ends for that. -/
theorem ends_served_of_short (factor : Factor) (sequel : Sequel) (ended : connection.ended = true)
    (few : connection.sent.length < Request.size) :
    connection.Ends none (connection.served factor sequel) := by
  -- Nothing is reported before a request is there.
  obtain ⟨unread, same⟩ := served_eq_of_short factor sequel few
  rw [same]
  exact .short ended few rfl rfl

/-- A handler that has a whole request to read reports it, and can only fail behind that. -/
theorem ends_served_of_enough (factor : Factor) (sequel : Sequel)
    (enough : Request.size ≤ connection.sent.length) :
    connection.Ends none (connection.served factor sequel) := by
  -- Bytes that are long enough decode, so what is left is the task and sending.
  refine .answered enough (log_served factor connection sequel) ?_
  obtain ⟨unread, same⟩ := served_eq_of_decode factor sequel (Request.decode_eq_ok enough)
  rw [same]
  exact (outcome_respond ..).imp_right
    (Or.imp_right fun ⟨number, fault, _, failed⟩ => ⟨number, fault, failed⟩)

/-- A client that goes on sending has not ended too early. -/
theorem Ends.send {handling : Handling} (ends : connection.Ends failed handling)
    (sending : connection.ended = false) (more : Bytes) :
    { connection with sent := connection.sent ++ more }.Ends failed handling := by
  -- What comes behind a whole request is not reported.
  cases ends with
  | broken silent outcome => exact .broken silent outcome
  | short ended => exact absurd ended (by simp [sending])
  | answered enough reported outcome =>
    refine .answered ?_ (reported.trans (requestReports_append enough more).symm) outcome
    rw [List.length_append]
    omega

/-- A client that ends its sending side changes nothing in how its handler has ended. -/
theorem Ends.shut {handling : Handling} (ends : connection.Ends failed handling)
    (sent : after.sent = connection.sent)
    (ended : connection.ended = true → after.ended = true) :
    after.Ends failed handling := by
  -- What the handler has seen stays as it was, and the end of the stream may only come.
  cases ends with
  | broken silent outcome => exact .broken silent outcome
  | short endedSo few silent outcome =>
    exact .short (ended endedSo) (by rw [sent]; exact few) silent outcome
  | answered enough reported outcome =>
    exact .answered (by rw [sent]; exact enough) (by rw [sent]; exact reported) outcome

/-- Where the phase and what has been sent stay as they are, a handler stays where it is due. -/
theorem IsDue.shut (due : before.IsDue failed) (phase : after.phase = before.phase)
    (sent : after.sent = before.sent) (ended : before.ended = true → after.ended = true) :
    after.IsDue failed where
  -- The phase decides which part of the account is due, and it stays as it was.
  unserved early := due.unserved (by rwa [phase] at early)
  working left works := by
    rw [sent]
    exact due.working left (phase.symm.trans works)
  finished handling endedSo := (due.finished handling (phase.symm.trans endedSo)).shut sent ended

/-- A handler that reads has not failed to. -/
theorem IsDue.reading (reads : connection.phase = .reading) : connection.IsDue none where
  -- A handler that still reads is neither at work nor finished.
  unserved _ := rfl
  working left works := by cases reads.symm.trans works
  finished handling ended := by cases reads.symm.trans ended

/-- A handler spends time on a whole request. -/
theorem IsDue.works {left : Nat} (enough : Request.size ≤ connection.sent.length) :
    { connection with phase := .working left }.IsDue none where
  -- The request has arrived whole, which is all that work asks for.
  unserved _ := rfl
  working _ _ := ⟨rfl, enough⟩
  finished handling ended := by cases ended

/-- A handler ends in one of the possible ways. -/
theorem IsDue.ends {handling : Handling} (ends : connection.Ends failed handling) :
    { connection with phase := .finished handling }.IsDue failed where
  -- The handler has just finished, so its end is the only part that is due.
  unserved early := by simp at early
  working left works := by cases works
  finished other ended := by
    cases ended
    exact ends.shut rfl id

/-- Every move leaves a handler where it is due. -/
theorem IsDue.moves (due : before.IsDue failed) (moved : Moves factor event before after) :
    after.IsDue (failed.or (event.readFault? before.peer)) := by
  -- Reading fails in a single kind of move.
  have same (none : event.readFault? before.peer = none) :
      failed.or (event.readFault? before.peer) = failed := by
    rw [none, Option.or_none]
  cases moved with
  | rest elsewhere =>
    rw [same (Event.readFault?_of_elsewhere elsewhere)]
    exact due
  | accept waiting =>
    obtain rfl := due.unserved (.inl waiting)
    exact .reading rfl
  | work reading ready done =>
    -- A handler that has read too little does not get here.
    obtain rfl := due.unserved (.inr reading)
    exact .works (enough_of_outcome_served done)
  | giveUp reading ready =>
    -- A handler that goes on with too little is at the end of the stream.
    obtain rfl := due.unserved (.inr reading)
    rcases Nat.lt_or_ge before.sent.length Request.size with few | enough
    · have ended : before.ended = true := by simpa [isReady, Nat.not_le.mpr few] using ready
      exact .ends (ends_served_of_short factor {} ended few)
    · exact .ends (ends_served_of_enough factor {} enough)
  | @readFailed _ fault reading final =>
    -- What the handler could have read is lost with the stream.
    obtain rfl := due.unserved (.inr reading)
    have failure : (Event.readFailed before.peer fault).readFault? before.peer = some fault := by
      simp [Event.readFault?]
    have stop : deliveryStop [.fail fault] = fault := by simp [deliveryStop, final]
    rw [failure, Option.none_or, handle_of_short factor (by simp [delivered, final, Request.size]),
      stop]
    exact .ends (.broken rfl rfl)
  | @finish _ sequel spent =>
    obtain ⟨rfl, enough⟩ := due.working 0 spent
    exact .ends (ends_served_of_enough factor sequel enough)
  | elapse =>
    -- Time changes how much is left of it, and no other phase.
    rw [same rfl]
    refine ⟨fun early => ?_, fun left works => ?_, fun handling ended => ?_⟩
    · exact due.unserved (early.imp Phase.after_eq_waiting_iff.mp Phase.after_eq_reading_iff.mp)
    · obtain ⟨more, works⟩ := Phase.exists_working_of_after works
      exact due.working more works
    · exact (due.finished handling (Phase.after_eq_finished_iff.mp ended)).shut rfl id
  | send sending =>
    rw [same rfl]
    refine ⟨due.unserved, fun left works => ?_, fun handling ended => ?_⟩
    · obtain ⟨unbroken, enough⟩ := due.working left works
      rw [List.length_append]
      exact ⟨unbroken, by omega⟩
    · exact (due.finished handling ended).send sending _
  | shutdown isOpen =>
    rw [same rfl]
    exact due.shut rfl rfl fun _ => rfl
  | close isOpen =>
    rw [same rfl]
    exact due.shut rfl rfl fun _ => rfl
  | receive isOpen outstanding =>
    rw [same rfl]
    exact due.shut rfl rfl id

/-- Passing time ends no handler. -/
theorem failure?_after (connection : Connection) (millis : Nat) :
    { connection with phase := connection.phase.after millis }.failure? = connection.failure? := by
  -- Only a finished handler has a failure, and time changes nothing about it.
  cases phase : connection.phase <;> simp [failure?, phase, Phase.after]

/-- A handler ends for its task only where it meets one that fails so. -/
theorem Moves.failure?_task (moved : Moves factor event before after) {number : Nat}
    {fault : TaskFault} (failure : after.failure? = some (.task number fault)) :
    before.failure? = some (.task number fault) ∨
      ∃ sequel, event = .finish before.peer sequel ∧ sequel.task = some (number, fault) := by
  -- A handler that ends before its time is spent has met no task.
  cases moved with
  | rest | send | shutdown | close | receive => exact .inl failure
  | accept | work => cases failure
  | elapse =>
    rw [failure?_after] at failure
    exact .inl failure
  | giveUp =>
    cases task_of_outcome_handle (Handling.failure?_eq_some_iff.mp failure)
  | readFailed =>
    cases task_of_outcome_handle (Handling.failure?_eq_some_iff.mp failure)
  | @finish _ sequel =>
    exact .inr ⟨sequel, rfl, task_of_outcome_handle (Handling.failure?_eq_some_iff.mp failure)⟩

/-- Nothing is reported of a connection that has not been accepted. -/
theorem reports_of_not_isAccepted (waits : connection.isAccepted = false) :
    connection.reports = [] := by
  -- A connection still waiting has logged nothing yet.
  cases phase : connection.phase <;> simp_all [isAccepted, reports]

/-- A connection that has just been made waits for its handler. -/
theorem IsDue.fresh (peer : Endpoint) : IsDue none { peer := peer } where
  -- A fresh connection waits, so no failure has been seen.
  unserved _ := rfl
  working left works := by cases works
  finished handling ended := by cases ended

/-- A handler that has a whole request fails in sending or in its task at most. -/
theorem IsDue.failure?_of_enough (due : connection.IsDue failed) (unbroken : failed = none)
    (enough : Request.size ≤ connection.sent.length) {fault : ConnectionFault}
    (failure : connection.failure? = some fault) :
    (∃ cause, fault = .write cause) ∨ ∃ number cause, fault = .task number cause := by
  -- Only a handler that has ended can have failed, and a stream that is too short is ruled out.
  subst unbroken
  cases phase : connection.phase with
  | waiting | reading | working => simp [failure?, phase] at failure
  | finished handling =>
    cases due.finished handling phase with
    | short _ few => exact absurd few (Nat.not_lt.mpr enough)
    | answered _ _ outcome =>
      rcases outcome with done | ⟨cause, stopped⟩ | ⟨number, cause, stopped⟩
      · simp [failure?, phase, Handling.failure?, done] at failure
      · exact .inl
          ⟨cause, by simpa [failure?, phase, Handling.failure?, stopped] using failure.symm⟩
      · exact .inr ⟨number, cause, by
          simpa [failure?, phase, Handling.failure?, stopped] using failure.symm⟩

section Accepted

variable (due : connection.IsDue failed) (accepted : connection.isAccepted = true)

include due accepted

/-- A handler that fails to read ends with that failure. -/
theorem IsDue.failure?_of_broken {fault : IoFault} (broken : failed = some fault) :
    connection.failure? = some (.read fault) := by
  -- It has ended, as it would not have failed to read in any phase before that.
  subst broken
  cases phase : connection.phase with
  | waiting => simp [isAccepted, phase] at accepted
  | reading => cases due.unserved (.inr phase)
  | working left => cases (due.working left phase).1
  | finished handling =>
    cases due.finished handling phase with
    | broken silent outcome => simp [failure?, phase, Handling.failure?, outcome]

/-- A handler that is sent too little reads on until the client ends its sending side, and fails
then. -/
theorem IsDue.failure?_of_short (unbroken : failed = none)
    (few : connection.sent.length < Request.size)
    (unready : connection.phase = .reading → connection.isReady = false) :
    connection.failure? = if connection.ended then some (.read earlyEnd) else none := by
  subst unbroken
  cases phase : connection.phase with
  | waiting => simp [isAccepted, phase] at accepted
  | reading =>
    -- At the end of the stream the handler would not wait.
    have waits := unready phase
    simp only [isReady, Bool.or_eq_false_iff] at waits
    simp [failure?, phase, waits.1]
  | working left => exact absurd few (Nat.not_lt.mpr (due.working left phase).2)
  | finished handling =>
    cases due.finished handling phase with
    | short ended _ _ outcome => simp [failure?, phase, Handling.failure?, outcome, ended]
    | answered enough => exact absurd few (Nat.not_lt.mpr enough)

/-- Of an accepted connection it is reported that it has been accepted, what came of asking its
stream, its request if that has come in whole, and its failure if it has one. -/
theorem IsDue.reports_eq (unready : connection.phase = .reading → connection.isReady = false) :
    connection.reports =
      connection.admission ++
        ((if failed = none ∧ Request.size ≤ connection.sent.length
            then requestReports connection.sent else []) ++
          (connection.failure?.map (LogRecord.abandoned connection.peer)).toList) := by
  -- A handler that reads and is not ready has no whole request, and every later phase tells itself
  -- whether there has been one.
  cases phase : connection.phase with
  | waiting => simp [isAccepted, phase] at accepted
  | reading =>
    have waits := unready phase
    simp only [isReady, Bool.or_eq_false_iff, decide_eq_false_iff_not] at waits
    simp [reports, failure?, phase, waits.2]
  | working left =>
    simp [reports, failure?, phase, due.working left phase]
  | finished handling =>
    have closing := handling.closing_eq connection.peer
    cases due.finished handling phase with
    | broken silent outcome => simp [reports, failure?, phase, closing, silent]
    | short _ few silent => simp [reports, failure?, phase, closing, silent, Nat.not_le.mpr few]
    | answered enough reported => simp [reports, failure?, phase, closing, reported, enough]

end Accepted

end Connection

namespace State

variable {state next : State} {peer : Endpoint} {events : List Event} {event : Event}

/-- The handler of a client, if it has one, is where it is due after some events. -/
structure KeepsDue (peer : Endpoint) (events : List Event) (state : State) : Prop where
  absent (missing : state.connection? peer = none) : readFaultOf? peer events = none
  present (connection : Connection) (found : state.connection? peer = some connection) :
    connection.IsDue (readFaultOf? peer events)

/-- No handler fails to read for a client that is not connected. -/
theorem readFault?_of_absent (absent : state.connection? peer = none)
    (stepped : state.step? event = some next) : event.readFault? peer = none := by
  -- A stream can only fail for a client that is connected.
  cases event with
  | readFailed client fault =>
    obtain ⟨connection, found, -⟩ := readFailed?_eq_some_iff.mp stepped
    simp [Event.readFault?, beq_eq_false_of_absent absent found]
  | _ => rfl

/-- Every step leaves a handler where it is due. -/
theorem KeepsDue.step? (keeps : state.KeepsDue peer events) (distinct : state.HasDistinctPeers)
    (stepped : state.step? event = some next) : next.KeepsDue peer (events ++ [event]) := by
  -- Nothing has failed for a client that was not there before the step.
  have nothing (before : state.connection? peer = none) :
      readFaultOf? peer (events ++ [event]) = none := by
    rw [readFaultOf?_append, keeps.absent before, readFault?_of_absent before stepped]
    rfl
  refine ⟨fun missing => nothing (absent_of_step? distinct stepped missing),
    fun connection found => ?_⟩
  rcases fresh_or_moves_of_step? distinct stepped found with ⟨before, rfl⟩ | ⟨earlier, before, move⟩
  · rw [nothing before]
    exact .fresh peer
  · obtain rfl := peer_of_connection? before
    rw [readFaultOf?_append]
    exact (keeps.present earlier before).moves move

/-- Every handler is where it is due after every run. -/
theorem keepsDue_of_run? {server : Server} (ran : (initial server).run? events = some state)
    (peer : Endpoint) : state.KeepsDue peer events := by
  -- Nothing has failed before the first event.
  refine (run?_induction ?_ ?_ ran).2
  · exact ⟨fun _ => rfl, fun connection found => by cases found⟩
  · intro events state event next reached keeps stepped
    exact keeps.step? reached.hasDistinctPeers stepped

/-- Where the handler of a client has ended for its task, it has met one that fails so. -/
theorem task_of_run? {server : Server} (ran : (initial server).run? events = some state)
    {connection : Connection} (found : state.connection? peer = some connection) {number : Nat}
    {fault : TaskFault} (failure : connection.failure? = some (.task number fault)) :
    ∃ sequel, Event.finish peer sequel ∈ events ∧ sequel.task = some (number, fault) := by
  -- The event in which it has ended stays among those of the run.
  refine (run?_induction (motive := fun events state => ∀ connection : Connection,
    state.connection? peer = some connection → connection.failure? = some (.task number fault) →
      ∃ sequel, Event.finish peer sequel ∈ events ∧ sequel.task = some (number, fault))
    (fun _ found => by cases found) ?_ ran).2 connection found failure
  intro events state event next reached known stepped connection found failure
  rcases fresh_or_moves_of_step? reached.hasDistinctPeers stepped found with
    ⟨-, rfl⟩ | ⟨earlier, before, move⟩
  · cases failure
  · obtain rfl := peer_of_connection? before
    rcases move.failure?_task failure with failed | ⟨sequel, rfl, failing⟩
    · obtain ⟨sequel, member, failing⟩ := known earlier before failed
      exact ⟨sequel, List.mem_append_left _ member, failing⟩
    · exact ⟨sequel, by simp, failing⟩

end State

end LoadServer
