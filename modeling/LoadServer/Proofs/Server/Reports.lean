import LoadServer.Proofs.Server.Effects
import LoadServer.Proofs.Server.OwnTag

/-!
What the server reports of its connections. Main statement: everything in the log is about a
connection that has been accepted, as far as its handler has come, or about an accept that has
failed.
-/

namespace LoadServer

/-- What is reported of the request that some bytes begin with, if there is a whole one. -/
def requestReports (sent : Bytes) : List LogRecord :=
  match Request.decode sent with
  | .ok request => [.processing request.tag request.delay]
  | .error _ => []

/-- Bytes that follow a whole request change nothing in what is reported of it. -/
theorem requestReports_append {sent : Bytes} (enough : Request.size ≤ sent.length) (more : Bytes) :
    requestReports (sent ++ more) = requestReports sent := by
  -- Both begin with the same request.
  have still : Request.size ≤ (sent ++ more).length := by
    rw [List.length_append]
    omega
  have same : Request.decode (sent ++ more) = Request.decode sent := by
    rw [← Request.decode_take still, List.take_append_of_le_length enough,
      Request.decode_take enough]
  rw [requestReports, requestReports, same]

namespace Connection

variable {connection : Connection}

/-- A handler reports the request that has been sent to it, whatever it meets behind that. -/
theorem log_served (factor : Factor) (connection : Connection) (sequel : Sequel) :
    (connection.served factor sequel).log = requestReports connection.sent := by
  -- The report depends on what arrives, and it is made before any time is spent.
  rcases Nat.lt_or_ge connection.sent.length Request.size with short | enough
  · obtain ⟨unread, same⟩ := served_eq_of_short factor sequel short
    rw [same, requestReports, Request.decode, if_pos short]
  · have decoded := Request.decode_eq_ok enough
    obtain ⟨unread, same⟩ := served_eq_of_decode factor sequel decoded
    rw [same, log_respond, requestReports, decoded]

/-- What is reported of a connection as it is accepted. -/
def admission (connection : Connection) : List LogRecord :=
  .accepted connection.peer :: connection.noDelay.reports connection.peer

/-- What has been reported of a connection. -/
def reports (connection : Connection) : List LogRecord :=
  match connection.phase with
  | .waiting => []
  | .reading => connection.admission
  | .working _ => connection.admission ++ requestReports connection.sent
  | .finished handling =>
    connection.admission ++ (handling.log ++ handling.closing connection.peer)

/-- Passing time changes nothing in what has been reported. -/
theorem reports_after (connection : Connection) (millis : Nat) :
    { connection with phase := connection.phase.after millis }.reports = connection.reports := by
  -- What is reported depends on the request and the end, not on the time left.
  cases phase : connection.phase <;> simp [reports, admission, phase, Phase.after]

/-- Sending more changes nothing in what has been reported, as time is spent on whole requests
alone. -/
theorem reports_append
    (whole : ∀ left, connection.phase = .working left → Request.size ≤ connection.sent.length)
    (more : Bytes) :
    { connection with sent := connection.sent ++ more }.reports = connection.reports := by
  -- Once the request is whole, more bytes do not change what it reports.
  cases phase : connection.phase with
  | working left => simp [reports, admission, phase, requestReports_append (whole left phase)]
  | _ => simp [reports, admission, phase]

end Connection

namespace State

variable {state next : State} {peer : Endpoint} {connection : Connection} {event : Event}
  {faults : List IoFault}

/-- What the handlers of a reachable state have sent back, they have sent to whole requests. -/
theorem Reachable.echoes {server : Server} (reached : Reachable server state)
    (found : state.connection? peer = some connection) : connection.Echoes False := by
  -- No condition is put on streams, so that every move keeps what is known.
  induction reached generalizing connection with
  | initial => cases found
  | @step state next event reached stepped ih =>
    rcases fresh_or_moves_of_step? reached.hasDistinctPeers stepped found with
      ⟨-, rfl⟩ | ⟨earlier, before, move⟩
    · exact .fresh peer
    · exact (ih before).moves move False.elim

/-- The log holds what has been reported of each connection and each failed accept, in any order. -/
def Accounts (faults : List IoFault) (state : State) : Prop :=
  (state.log : Multiset LogRecord) =
    (state.connections.map fun connection => (connection.reports : Multiset LogRecord)).sum +
      faults.map LogRecord.acceptFailed

namespace Accounts

/-- What is reported of one connection while it changes is accounted for. -/
theorem update (accounts : state.Accounts faults) (distinct : state.HasDistinctPeers)
    (found : state.connection? peer = some connection) {change : Connection → Connection}
    {entries : List LogRecord} (grown : (change connection).reports = connection.reports ++ entries)
    (connections : next.connections = (state.update peer change).connections)
    (log : next.log = state.log ++ entries) : next.Accounts faults := by
  -- The share of this connection grows by the new entries, and the log does.
  have shares := sum_update distinct found
    (fun connection => (connection.reports : Multiset LogRecord)) change
  rw [grown, ← Multiset.coe_add, ← add_assoc, add_right_comm] at shares
  have total := add_right_cancel shares
  rw [Accounts, connections, log, total, ← Multiset.coe_add, accounts]
  abel

/-- Where neither the connections nor the log change, everything stays accounted for. -/
theorem congr (accounts : state.Accounts faults)
    (connections : next.connections = state.connections)
    (log : next.log = state.log) : next.Accounts faults := by
  -- The account compares the log with the connections and looks at nothing else.
  rw [Accounts, connections, log]
  exact accounts

/-- Changing a connection without any report is accounted for. -/
theorem silent (accounts : state.Accounts faults) (distinct : state.HasDistinctPeers)
    (found : state.connection? peer = some connection) {change : Connection → Connection}
    (same : (change connection).reports = connection.reports) :
    (state.update peer change).Accounts faults :=
  -- The connection reports what it did before, and the log stays as it is.
  accounts.update distinct found (same.trans (List.append_nil _).symm) rfl (List.append_nil _).symm

/-- What a handler reports of its request and at its end is accounted for. -/
theorem conclude (accounts : state.Accounts faults) (distinct : state.HasDistinctPeers)
    (found : state.connection? peer = some connection) {handling : Handling}
    {noted : List LogRecord}
    (before : connection.reports ++ noted = connection.admission ++ handling.log) :
    (({ state with log := state.log ++ noted } : State).conclude peer handling).Accounts faults := by
  -- The end is reported behind everything else.
  obtain rfl := peer_of_connection? found
  refine accounts.update distinct found ?_ (connections_conclude ..)
    ((log_conclude ..).trans (List.append_assoc ..))
  rw [← List.append_assoc, before, List.append_assoc]
  rfl

/-- What a handler reports at its end is accounted for, if nothing else is left to be reported. -/
theorem conclude_of_reported (accounts : state.Accounts faults) (distinct : state.HasDistinctPeers)
    (found : state.connection? peer = some connection) {handling : Handling}
    (before : connection.reports = connection.admission ++ handling.log) :
    (state.conclude peer handling).Accounts faults := by
  -- What the handler logged is in the account already, so only its closing record is new.
  simpa using accounts.conclude distinct found ((List.append_nil _).trans before)

/-- Everything that is reported in a step is accounted for. -/
theorem step? (accounts : state.Accounts faults) (distinct : state.HasDistinctPeers)
    (whole : ∀ peer connection, state.connection? peer = some connection →
      ∀ left, connection.phase = .working left → Request.size ≤ connection.sent.length)
    (stepped : state.step? event = some next) :
    next.Accounts (faults ++ event.acceptFault?.toList) := by
  -- Most events are no failures of accepts.
  have plain (none : event.acceptFault? = none) (holds : next.Accounts faults) :
      next.Accounts (faults ++ event.acceptFault?.toList) := by
    rw [none]
    simpa using holds
  cases event with
  | acquire =>
    refine plain rfl ?_
    obtain ⟨-, -, granted⟩ := acquire?_eq_some_iff.mp stepped
    rcases granted with ⟨-, rfl⟩ | ⟨permits, -, ⟨left, -, rfl⟩ | ⟨-, rfl⟩⟩ <;>
      exact accounts.congr rfl rfl
  | acceptFailed fault =>
    obtain ⟨-, rfl⟩ := acceptFailed?_eq_some_iff.mp stepped
    have reported : ((state.log ++ [.acceptFailed fault] : List LogRecord) : Multiset LogRecord) =
        (state.connections.map fun connection => (connection.reports : Multiset LogRecord)).sum +
          (faults.map LogRecord.acceptFailed ++ [.acceptFailed fault] : List LogRecord) := by
      have before : (state.log : Multiset LogRecord) = _ := accounts
      rw [← Multiset.coe_add, before, add_assoc, Multiset.coe_add]
    simpa [Accounts, note, release, Event.acceptFault?] using reported
  | accept fault =>
    refine plain rfl ?_
    -- What comes of asking the stream is reported behind the accept.
    obtain ⟨-, connection, first, rfl⟩ := accept?_eq_some_iff.mp stepped
    obtain ⟨member, waiting⟩ := firstWaiting?_eq_some first
    refine accounts.update distinct (distinct.connection?_of_mem member) ?_ rfl rfl
    simp [Connection.reports, Connection.admission, waiting]
  | read peer =>
    refine plain rfl ?_
    -- The request is reported now, and behind it the failure of a handler that ends here.
    obtain ⟨connection, found, reading, -, rfl⟩ := read?_eq_some_iff.mp stepped
    obtain rfl := peer_of_connection? found
    have before : connection.reports = connection.admission := by
      simp [Connection.reports, reading]
    cases outcome : (connection.served state.factor {}).outcome with
    | error fault =>
      rw [proceed, outcome]
      exact accounts.conclude distinct found (by rw [before])
    | ok =>
      rw [proceed, outcome]
      refine accounts.update distinct found ?_ rfl rfl
      rw [before, Connection.log_served]
      rfl
  | readFailed peer fault =>
    refine plain rfl ?_
    -- There is no request to be reported.
    obtain ⟨connection, found, reading, final, rfl⟩ := readFailed?_eq_some_iff.mp stepped
    obtain rfl := peer_of_connection? found
    refine accounts.conclude_of_reported distinct found ?_
    rw [handle_of_short state.factor (by simp [delivered, final, Request.size])]
    simp [Connection.reports, reading]
  | finish peer sequel =>
    refine plain rfl ?_
    -- The request has been reported before its time was spent.
    obtain ⟨connection, found, spent, rfl⟩ := finish?_eq_some_iff.mp stepped
    obtain rfl := peer_of_connection? found
    refine accounts.conclude_of_reported distinct found ?_
    rw [Connection.log_served]
    simp [Connection.reports, spent]
  | elapse millis =>
    cases stepped
    refine plain rfl ?_
    simpa [Accounts, elapse, Function.comp_def, Connection.reports_after] using accounts
  | connect peer =>
    refine plain rfl ?_
    obtain ⟨-, rfl⟩ := connect?_eq_some_iff.mp stepped
    simpa [Accounts, Connection.reports] using accounts
  | send peer bytes =>
    refine plain rfl ?_
    -- Bytes behind a request that has been reported play no part.
    obtain ⟨connection, found, -, rfl⟩ := send?_eq_some_iff.mp stepped
    exact accounts.silent distinct found
      (Connection.reports_append (whole peer connection found) bytes)
  | shutdown peer =>
    refine plain rfl ?_
    obtain ⟨connection, found, -, rfl⟩ := shutdown?_eq_some_iff.mp stepped
    exact accounts.silent distinct found rfl
  | close peer =>
    refine plain rfl ?_
    obtain ⟨connection, found, -, rfl⟩ := close?_eq_some_iff.mp stepped
    exact accounts.silent distinct found rfl
  | receive peer =>
    refine plain rfl ?_
    obtain ⟨connection, bytes, found, -, -, rfl⟩ := receive?_eq_some_iff.mp stepped
    exact accounts.silent distinct found rfl

/-- Everything that is reported in a run is accounted for. -/
theorem of_run? {server : Server} {events : List Event}
    (ran : (initial server).run? events = some state) :
    state.Accounts (events.filterMap Event.acceptFault?) := by
  -- The log is empty at the start.
  refine (run?_induction (motive := fun events state =>
    state.Accounts (events.filterMap Event.acceptFault?)) rfl ?_ ran).2
  intro events state event next reached before stepped
  have whole (peer : Endpoint) (connection : Connection)
      (found : state.connection? peer = some connection) (left : Nat)
      (working : connection.phase = .working left) : Request.size ≤ connection.sent.length :=
    (reached.echoes found).request left working
  rw [acceptFaults_append]
  exact before.step? reached.hasDistinctPeers whole stepped

/-- The reports of all connections together. -/
theorem sum_reports (connections : List Connection) :
    (connections.map fun connection => (connection.reports : Multiset LogRecord)).sum =
      (connections.flatMap Connection.reports : List LogRecord) := by
  -- The records of each connection make up one list, and their order no longer counts.
  induction connections with
  | nil => rfl
  | cons head rest ih =>
    rw [List.map_cons, List.sum_cons, ih, List.flatMap_cons, Multiset.coe_add]

end Accounts

/-- The log holds nothing but what has been reported of connections, as far as the server is with
each of them, and of accepts that have failed. -/
theorem log_perm_of_run? {server : Server} {events : List Event}
    (ran : (initial server).run? events = some state) :
    state.log.Perm (state.connections.flatMap Connection.reports ++
      (events.filterMap Event.acceptFault?).map LogRecord.acceptFailed) := by
  -- The account is kept in records without order, which is what a permutation leaves open.
  have accounts : (state.log : Multiset LogRecord) = _ := Accounts.of_run? ran
  rw [Accounts.sum_reports, Multiset.coe_add] at accounts
  exact Multiset.coe_eq_coe.mp accounts

end State

end LoadServer
