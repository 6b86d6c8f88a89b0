import LoadServer.Proofs.Server.AdmissionOrder
import LoadServer.Proofs.Server.Endings

/-!
What the log holds where the server can take no step by itself. Main statement: one record for each
accepted connection, one for each of their streams that could not be asked not to hold back what is
sent, one for each request that has come in whole, one for each handler that has failed, and one for
each failed accept; connections that wait and handlers that still read have nothing more there.
-/

namespace LoadServer

/-- Whole requests are decoded and reported one by one. -/
theorem exists_requests {connections : List Connection} {sent : Connection → Bytes}
    (enough : ∀ connection ∈ connections, Request.size ≤ (sent connection).length) :
    ∃ requests : List Request,
      List.Forall₂ (fun connection request =>
        Request.decode ((sent connection).take 144) = .ok request) connections requests ∧
      connections.flatMap (fun connection => requestReports (sent connection)) =
        requests.map fun request => .processing request.tag request.delay := by
  induction connections with
  | nil => exact ⟨[], .nil, rfl⟩
  | cons connection rest ih =>
    rw [List.forall_mem_cons] at enough
    obtain ⟨requests, decoded, reported⟩ := ih enough.2
    -- The first request is in the first bytes, whatever follows them.
    have whole := Request.decode_eq_ok enough.1
    refine ⟨_ :: requests, .cons ((Request.decode_take enough.1).trans whole) decoded, ?_⟩
    rw [List.flatMap_cons, reported, requestReports, whole]
    rfl

/-- What only some members of a list give is given by these members. -/
theorem flatMap_ite {α β : Type} (members : List α) (some : α → Bool) (gives : α → List β) :
    members.flatMap (fun member => if some member then gives member else []) =
      (members.filter some).flatMap gives := by
  -- The members left out give nothing.
  induction members with
  | nil => rfl
  | cons member rest ih => cases one : some member <;> simp [one, ih]

/-- What is known of a connection after some events, where the server can take no step by itself. -/
structure Connection.IsSettledAfter (events : List Event) (connection : Connection) : Prop where
  due : connection.IsDue (readFaultOf? connection.peer events)
  sent : connection.sent = allSentBy connection.peer events
  ended : connection.ended = events.any (Event.endsSending connection.peer)
  unready (reading : connection.phase = .reading) : connection.isReady = false

/-- What is reported of an accepted connection is told by the events and its failure. -/
theorem Connection.IsSettledAfter.reports_eq {events : List Event} {connection : Connection}
    (settled : connection.IsSettledAfter events) :
    connection.reports =
      if connection.isAccepted then
        connection.admission ++
          ((if hasDelivered events connection.peer
              then requestReports (allSentBy connection.peer events) else []) ++
            (connection.failure?.map (LogRecord.abandoned connection.peer)).toList)
      else [] := by
  -- A connection that is not accepted has reported nothing, and any other what is due.
  cases isAccepted : connection.isAccepted with
  | false => exact reports_of_not_isAccepted isAccepted
  | true =>
    rw [settled.due.reports_eq isAccepted settled.unready, settled.sent]
    simp only [hasDelivered, decide_eq_true_eq]
    rfl

/-- What is reported of several connections, sorted by what it is about. -/
theorem reports_perm {events : List Event} {connections : List Connection}
    (settled : ∀ connection ∈ connections, connection.IsSettledAfter events) :
    let accepted := connections.filter Connection.isAccepted
    let delivered := accepted.filter fun connection => hasDelivered events connection.peer
    ∃ requests : List Request,
      List.Forall₂ (fun connection request =>
        Request.decode ((allSentBy connection.peer events).take 144) = .ok request)
        delivered requests ∧
      (connections.flatMap Connection.reports).Perm
        ((accepted.map (fun connection => .accepted connection.peer) ++
          accepted.flatMap fun connection => connection.noDelay.reports connection.peer) ++
          (requests.map (fun request => .processing request.tag request.delay) ++
            accepted.filterMap fun connection =>
              connection.failure?.map (LogRecord.abandoned connection.peer))) := by
  intro accepted delivered
  have enough (connection : Connection) (member : connection ∈ delivered) :
      Request.size ≤ (allSentBy connection.peer events).length := by
    have holds := (List.mem_filter.mp member).2
    exact (of_decide_eq_true holds).2
  obtain ⟨requests, decoded, reported⟩ := exists_requests enough
  refine ⟨requests, decoded, ?_⟩
  -- Each accepted connection has a share in every sort of reports, and the others have none.
  have shares := List.flatMap_congr fun connection member => (settled connection member).reports_eq
  have processed := flatMap_ite accepted (fun connection => hasDelivered events connection.peer)
    fun connection => requestReports (allSentBy connection.peer events)
  rw [shares, flatMap_ite, List.map_eq_flatMap, ← reported, ← processed,
    List.filterMap_eq_flatMap_toList]
  have admitted : (accepted.flatMap Connection.admission).Perm
      (accepted.flatMap (fun connection => [.accepted connection.peer]) ++
        accepted.flatMap fun connection => connection.noDelay.reports connection.peer) :=
    (List.flatMap_append_perm accepted (fun connection => [LogRecord.accepted connection.peer])
      fun connection => connection.noDelay.reports connection.peer).symm
  exact (List.flatMap_append_perm accepted _ _).symm.trans
    (admitted.append (List.flatMap_append_perm accepted _ _).symm)

namespace State

variable {state : State} {events : List Event}

/-- Where the server can take no step by itself, every connection is one of which so much is known.
-/
theorem isSettledAfter_of_run? {server : Server} (ran : (initial server).run? events = some state)
    (settled : state.IsSettled) {connection : Connection}
    (member : connection ∈ state.connections) : connection.IsSettledAfter events := by
  -- The bytes and the end are those of the run, and nothing ready is left unread.
  have found := (reachable_of_run? ran).hasDistinctPeers.connection?_of_mem member
  obtain ⟨sent, ended, -⟩ := (follows_of_run? ran connection.peer).present connection found
  have due := (keepsDue_of_run? ran connection.peer).present connection found
  exact ⟨due, sent, ended, settled.isReady_eq_false found⟩

/-- A record of a client and a failure shows both of them behind its severity and a fixed text. -/
theorem line_of_words {entry : LogRecord} {level what peer message : String}
    (severity : entry.severity.text = level)
    (words : entry.words = what ++ peer ++ " error=" ++ message) :
    entry.line = level ++ " " ++ what ++ peer ++ " error=" ++ message := by
  rw [LogRecord.line, severity, words]
  simp only [String.append_assoc]

/-- An abandoned connection is reported with the text of its failure. -/
theorem line_abandoned (peer : Endpoint) (fault : ConnectionFault) :
    (LogRecord.abandoned peer fault).line =
      "TRACE Connection abandoned peer=" ++ peer.text ++ " error=" ++ fault.message := by
  -- The severity and what has happened make up the fixed text in front.
  have parts : "TRACE Connection abandoned peer=" =
      "TRACE" ++ " " ++ "Connection abandoned peer=" := by decide
  rw [parts]
  exact line_of_words rfl rfl

/-- A stream that could not be asked is reported with the text of the failure. -/
theorem line_noDelayFailed (peer : Endpoint) (fault : IoFault) :
    (LogRecord.noDelayFailed peer fault).line =
      "DEBUG Failed to set TCP_NODELAY peer=" ++ peer.text ++ " error=" ++ fault.message := by
  -- The severity and what has happened make up the fixed text in front.
  have parts : "DEBUG Failed to set TCP_NODELAY peer=" =
      "DEBUG" ++ " " ++ "Failed to set TCP_NODELAY peer=" := by decide
  rw [parts]
  exact line_of_words rfl rfl

/-- The accepted connections are divided from the others as the filter divides them. -/
theorem Queues.filter_isAccepted {accepted waiting : List Connection}
    (queues : state.Queues accepted waiting) :
    state.connections.filter Connection.isAccepted = accepted := by
  -- All in front have been accepted, and none behind them.
  have front : accepted.filter Connection.isAccepted = accepted := by
    refine List.filter_eq_self.mpr fun connection member => ?_
    rw [← Bool.not_eq_false, Connection.isAccepted_eq_false_iff]
    exact queues.taken connection member
  have behind : waiting.filter Connection.isAccepted = [] := by
    refine List.filter_eq_nil_iff.mpr fun connection member => ?_
    rw [Bool.not_eq_true, Connection.isAccepted_eq_false_iff]
    exact queues.left connection member
  rw [queues.order, List.filter_append, front, behind, List.append_nil]

/-- Where no stream is asked, or none fails to be, there is nothing to be reported of that. -/
theorem noDelay_reports_eq_nil {wanted : Bool} {accepted : List Connection}
    (asked : accepted.map Connection.noDelay = events.filterMap (Event.noDelay? wanted))
    (smooth : wanted = false ∨ ∀ fault, Event.accept (some fault) ∉ events) :
    accepted.flatMap (fun connection => connection.noDelay.reports connection.peer) = [] := by
  refine List.flatMap_eq_nil_iff.mpr fun connection member => ?_
  -- What came of asking this stream stands in one of the events.
  have told : connection.noDelay ∈ events.filterMap (Event.noDelay? wanted) := by
    rw [← asked]
    exact List.mem_map_of_mem member
  obtain ⟨event, happened, asks⟩ := List.mem_filterMap.mp told
  cases event with
  | accept fault =>
    obtain same : NoDelay.ask wanted fault = connection.noDelay := Option.some.inj asks
    rw [← same]
    rcases smooth with unwanted | never
    · rw [unwanted]
      rfl
    · cases fault with
      | none => cases wanted <;> rfl
      | some fault => exact absurd happened (never fault)
  | _ => cases asks

/-- Where the server can take no step by itself, the log holds these records in some order: one for
each accepted connection, which are all from different clients; one for each of them whose stream
could not be asked not to hold back what is sent, of which there are none where that is not wanted
or never fails; one for each of them that has delivered a whole request, with the tag and the delay
in its own first bytes; one for each of them whose handler has ended with a failure, with its text;
and one for each failed accept. A handler fails for what reading has failed with, or at the end of a
stream that is too short, and behind a whole request in sending alone, or for a task that it has met
and that has failed; it does not fail while it still waits for more. -/
theorem log_of_settled {server : Server} (ran : (initial server).run? events = some state)
    (settled : state.IsSettled) :
    let accepted := state.connections.filter Connection.isAccepted
    let delivered := accepted.filter fun connection => hasDelivered events connection.peer
    let unasked := accepted.flatMap fun connection => connection.noDelay.reports connection.peer
    (accepted.map Connection.peer).Nodup ∧
    (∃ requests : List Request,
      List.Forall₂ (fun connection request =>
        Request.decode ((allSentBy connection.peer events).take 144) = .ok request)
        delivered requests ∧
      state.log.Perm
        ((accepted.map (fun connection => .accepted connection.peer) ++ unasked) ++
          (requests.map (fun request => .processing request.tag request.delay) ++
            accepted.filterMap fun connection =>
              connection.failure?.map (LogRecord.abandoned connection.peer)) ++
          (events.filterMap Event.acceptFault?).map LogRecord.acceptFailed)) ∧
    accepted.map Connection.noDelay =
      events.filterMap (Event.noDelay? server.settings.nodelay) ∧
    ((server.settings.nodelay = false ∨ ∀ fault, Event.accept (some fault) ∉ events) →
      unasked = []) ∧
    (∀ connection ∈ accepted,
      let sent := allSentBy connection.peer events
      let broken := readFaultOf? connection.peer events
      (∀ fault, broken = some fault → connection.failure? = some (.read fault)) ∧
      (broken = none → sent.length < 144 →
        connection.failure? = if events.any (Event.endsSending connection.peer)
          then some (.read earlyEnd) else none) ∧
      (broken = none → 144 ≤ sent.length → ∀ fault, connection.failure? = some fault →
        (∃ cause, fault = .write cause) ∨
          ∃ number cause sequel, fault = .task number cause ∧
            .finish connection.peer sequel ∈ events ∧ sequel.task = some (number, cause))) ∧
    (∀ peer fault, (LogRecord.abandoned peer fault).line =
      "TRACE Connection abandoned peer=" ++ peer.text ++ " error=" ++ fault.message) ∧
    (∀ peer fault, (LogRecord.noDelayFailed peer fault).line =
      "DEBUG Failed to set TCP_NODELAY peer=" ++ peer.text ++ " error=" ++ fault.message) := by
  -- The log is made up of what is reported of each connection and of each failed accept.
  intro accepted delivered unasked
  have distinct := (reachable_of_run? ran).hasDistinctPeers
  have known (connection : Connection) (member : connection ∈ state.connections) :=
    isSettledAfter_of_run? ran settled member
  have asked : accepted.map Connection.noDelay =
      events.filterMap (Event.noDelay? server.settings.nodelay) := by
    obtain ⟨front, behind, queues, asked⟩ := exists_queues_of_run? ran
    rw [show accepted = front from queues.filter_isAccepted, asked]
  refine ⟨(List.filter_sublist.map Connection.peer).nodup distinct, ?_, asked,
    noDelay_reports_eq_nil asked, ?_, line_abandoned, line_noDelayFailed⟩
  · obtain ⟨requests, decoded, sorted⟩ := reports_perm known
    exact ⟨requests, decoded, (log_perm_of_run? ran).trans (sorted.append_right _)⟩
  · intro connection member
    obtain ⟨listed, isAccepted⟩ := List.mem_filter.mp member
    obtain ⟨due, sent, ended, unready⟩ := known connection listed
    rw [← sent, ← ended]
    refine ⟨fun fault => due.failure?_of_broken isAccepted,
      fun unbroken few => due.failure?_of_short isAccepted unbroken few unready,
      fun unbroken enough fault failure => ?_⟩
    -- A task that has failed is found in the event in which the handler has met it.
    refine (due.failure?_of_enough unbroken enough failure).imp_right ?_
    rintro ⟨number, cause, rfl⟩
    obtain ⟨sequel, met, failing⟩ :=
      task_of_run? ran (distinct.connection?_of_mem listed) failure
    exact ⟨number, cause, sequel, rfl, met, failing⟩

/-- With a single slot and a failed accept: a request that is answered on a stream that could not be
asked, one that its client breaks off while it waits, one that is lost with its stream, one that is
not yet whole, and one that waits. -/
theorem log_of_settled_single_slot :
    let client (port : UInt16) : Endpoint := ⟨.loopback, port⟩
    let bytes := (Request.single 7 0).encode
    let settings : Settings := { maxConnections := some 1, nodelay := true }
    let events : List Event := [.connect (client 1), .connect (client 2), .acquire,
      .acceptFailed (.ofKind .other), .acquire, .accept (some (.ofKind .invalidInput)),
      .send (client 2) (bytes.take 50), .shutdown (client 2), .send (client 1) bytes,
      .read (client 1), .finish (client 1) {}, .acquire, .accept none, .read (client 2),
      .connect (client 3), .send (client 3) bytes, .acquire, .accept none,
      .readFailed (client 3) (.ofKind .connectionReset), .connect (client 4), .acquire,
      .accept none, .send (client 4) (bytes.take 143), .connect (client 5),
      .send (client 5) bytes, .close (client 5)]
    ∃ server state, Server.create settings ⟨1⟩ = .ok server ∧
      (initial server).run? events = some state ∧ state.IsSettled ∧
      state.log.Perm [.accepted (client 1), .accepted (client 2), .accepted (client 3),
        .accepted (client 4), .noDelayFailed (client 1) (.ofKind .invalidInput),
        .processing 7 (.spin 0), .abandoned (client 2) (.read earlyEnd),
        .abandoned (client 3) (.read (.ofKind .connectionReset)),
        .acceptFailed (.ofKind .other)] := by
  intro client bytes settings events
  let server : Server := ⟨settings, ⟨1⟩, some { free := 1 }⟩
  let accepted (state : State) := state.connections.filter Connection.isAccepted
  have shown : ((initial server).run? events).map
      (fun state => (state.serverEvent?, (accepted state).map Connection.peer,
        (accepted state).flatMap (fun connection => connection.noDelay.reports connection.peer),
        ((accepted state).filter fun connection => hasDelivered events connection.peer).map
          Connection.peer,
        (accepted state).filterMap fun connection =>
          connection.failure?.map (LogRecord.abandoned connection.peer))) =
      some (none, [client 1, client 2, client 3, client 4],
        [.noDelayFailed (client 1) (.ofKind .invalidInput)], [client 1],
        [.abandoned (client 2) (.read earlyEnd),
          .abandoned (client 3) (.read (.ofKind .connectionReset))]) := by
    decide +kernel
  obtain ⟨state, ran, same⟩ := Option.map_eq_some_iff.mp shown
  simp only [Prod.mk.injEq] at same
  obtain ⟨idle, peers, unasked, alone, failures⟩ := same
  have settled : state.IsSettled := isSettled_of_serverEvent? idle
  obtain ⟨-, ⟨requests, decoded, logged⟩, -⟩ := log_of_settled ran settled
  -- One request has been delivered, which is the one that has been sent.
  obtain ⟨connection, one, named⟩ := List.map_eq_singleton_iff.mp alone
  rw [one, List.forall₂_cons_left_iff] at decoded
  obtain ⟨request, rest, whole, nothing, rfl⟩ := decoded
  obtain rfl := List.forall₂_nil_left_iff.mp nothing
  have sent : Request.decode ((allSentBy (client 1) events).take 144) =
      .ok (Request.single 7 0) := by
    decide +kernel
  rw [named, sent] at whole
  obtain rfl := Except.ok.inj whole
  have noted : (accepted state).map (fun connection => LogRecord.accepted connection.peer) =
      [client 1, client 2, client 3, client 4].map LogRecord.accepted := by
    rw [← peers, List.map_map]
    rfl
  rw [noted, unasked, failures] at logged
  exact ⟨server, state, rfl, ran, settled, logged⟩

end State

end LoadServer
