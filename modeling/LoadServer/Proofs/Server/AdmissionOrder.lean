import LoadServer.Proofs.Server.Reports
import LoadServer.Proofs.Server.Settling

/-!
The order in which connections are accepted. Main statement: it is the order in which they were
made, none is passed over, and one waits only if as many handlers are live as are allowed.
-/

namespace LoadServer

/-- The client that connects in an event. -/
def Event.connecting? : Event → Option Endpoint
  | .connect peer => some peer
  | _ => none

/-- The client whose connection is reported as accepted. -/
def LogRecord.accepted? : LogRecord → Option Endpoint
  | .accepted peer => some peer
  | _ => none

/-- What comes of asking the stream of the connection that is accepted in an event, if that is
wanted. -/
def Event.noDelay? (wanted : Bool) : Event → Option NoDelay
  | .accept fault => some (.ask wanted fault)
  | _ => none

/-- No stream is asked in an event that accepts no connection. -/
theorem Event.noDelay?_of_ne {wanted : Bool} {event : Event}
    (other : ∀ fault, event ≠ .accept fault) : [event].filterMap (noDelay? wanted) = [] := by
  -- Only accepting a connection asks its stream for anything.
  cases event with
  | accept fault => exact absurd rfl (other fault)
  | _ => rfl

/-- A connection goes on waiting in every event but that in which it is accepted. -/
theorem Connection.Moves.waiting_iff {factor : Factor} {event : Event} {before after : Connection}
    (moved : Moves factor event before after) (other : ∀ fault, event ≠ .accept fault) :
    after.phase = .waiting ↔ before.phase = .waiting := by
  -- Handlers never go back to waiting, and time does not count for those that wait.
  cases moved with
  | @accept _ fault => exact absurd rfl (other fault)
  | elapse => exact Phase.after_eq_waiting_iff
  | _ => simp_all

/-- What came of asking its stream stays with a connection. -/
theorem Connection.Moves.noDelay_eq {factor : Factor} {event : Event} {before after : Connection}
    (moved : Moves factor event before after) (other : ∀ fault, event ≠ .accept fault) :
    after.noDelay = before.noDelay := by
  -- A stream is asked only as its connection is accepted.
  cases moved with
  | @accept _ fault => exact absurd rfl (other fault)
  | _ => rfl

namespace State

variable {state next : State} {event : Event} {accepted waiting : List Connection}

/-- The connections in the order in which they were made: first those that have been accepted, and
reported so in this order, and then those that wait. -/
structure Queues (state : State) (accepted waiting : List Connection) : Prop where
  order : state.connections = accepted ++ waiting
  taken (connection : Connection) (member : connection ∈ accepted) : connection.phase ≠ .waiting
  left (connection : Connection) (member : connection ∈ waiting) : connection.phase = .waiting
  reported : state.log.filterMap LogRecord.accepted? = accepted.map Connection.peer

/-- Only accepting a connection is reported so. -/
theorem accepted_of_step? (other : ∀ fault, event ≠ .accept fault)
    (stepped : state.step? event = some next) :
    next.log.filterMap LogRecord.accepted? = state.log.filterMap LogRecord.accepted? := by
  -- What the other steps log is about failures, or about a connection accepted before.
  have about (entry : LogRecord) (outside : entry.isAdmission = false) :
      entry.accepted? = none := by
    cases entry <;> first | rfl | cases outside
  rw [filterMap_log_of_step? about other stepped]
  cases event.acceptFault? <;> simp [LogRecord.accepted?]

/-- What each connection keeps in a move, all of them keep. -/
theorem forall_of_forall₂ {factor : Factor} {holds : Connection → Prop}
    {before after : List Connection}
    (each : List.Forall₂ (Connection.Moves factor event) before after)
    (keeps : ∀ {one other : Connection}, Connection.Moves factor event one other → holds one →
      holds other)
    (all : ∀ connection ∈ before, holds connection) : ∀ connection ∈ after, holds connection := by
  -- The connections move one by one, each at its own place.
  induction each with
  | nil => exact all
  | cons move _ ih =>
    rw [List.forall_mem_cons] at all ⊢
    exact ⟨keeps move all.1, ih all.2⟩

/-- Connections that move by themselves keep what came of asking their streams. -/
theorem map_noDelay_of_forall₂ {factor : Factor} {before after : List Connection}
    (other : ∀ fault, event ≠ .accept fault)
    (each : List.Forall₂ (Connection.Moves factor event) before after) :
    after.map Connection.noDelay = before.map Connection.noDelay := by
  -- Each connection keeps it by itself.
  induction each with
  | nil => rfl
  | cons move _ ih => rw [List.map_cons, List.map_cons, move.noDelay_eq other, ih]

namespace Queues

/-- The connection that has waited longest is the first of those that wait. -/
theorem firstWaiting?_eq (queues : state.Queues accepted waiting) :
    state.firstWaiting? = waiting.head? := by
  rw [firstWaiting?, queues.order, List.find?_append, List.find?_eq_none.mpr, Option.none_or]
  · -- All that are left wait, so that the search stops at the first of them.
    cases waiting with
    | nil => rfl
    | cons first rest =>
      have waits := queues.left first List.mem_cons_self
      simp [waits]
  · -- The search passes over all that have been accepted.
    intro connection member
    have taken := queues.taken connection member
    cases phase : connection.phase <;> simp_all

/-- A connection that is accepted goes from the front of those that wait to the end of the others.
-/
theorem accept {fault : Option IoFault} (queues : state.Queues accepted waiting)
    (distinct : state.HasDistinctPeers) (stepped : state.step? (.accept fault) = some next) :
    ∃ first rest, waiting = first :: rest ∧
      next.Queues
        (accepted ++ [{ first with phase := .reading, noDelay := .ask state.nodelay fault }])
        rest := by
  -- The accept loop takes the first of those that wait, and changes this one alone.
  obtain ⟨-, first, found, rfl⟩ := accept?_eq_some_iff.mp stepped
  rw [queues.firstWaiting?_eq] at found
  obtain ⟨rest, rfl⟩ := List.head?_eq_some_iff.mp found
  refine ⟨first, rest, rfl, ?_, ?_, ?_, ?_⟩
  · -- No other connection comes from the same endpoint.
    have peers : ((accepted ++ first :: rest).map Connection.peer).Nodup := by
      rw [← queues.order]
      exact distinct
    rw [List.map_append, List.map_cons, List.nodup_middle, List.nodup_cons,
      List.mem_append] at peers
    obtain ⟨fresh, -⟩ := peers
    have before := map_eq_of_fresh (fun used => fresh (.inl used)) fun found : Connection =>
      { found with phase := .reading, noDelay := .ask state.nodelay fault }
    have behind := map_eq_of_fresh (fun used => fresh (.inr used)) fun found : Connection =>
      { found with phase := .reading, noDelay := .ask state.nodelay fault }
    simp only [launch, update, queues.order, List.map_append, List.map_cons, before, behind]
    simp
  · intro connection member
    rcases List.mem_append.mp member with old | now
    · exact queues.taken connection old
    · rw [List.mem_singleton.mp now]
      exact Phase.noConfusion
  · exact fun connection member => queues.left connection (List.mem_cons_of_mem first member)
  · -- What came of asking the stream is no accept.
    cases NoDelay.ask state.nodelay fault <;>
      simp [launch, NoDelay.reports, queues.reported, LogRecord.accepted?]

/-- In every other step connections stay where they are, with what came of asking their streams, and
a new one comes last. -/
theorem stay (queues : state.Queues accepted waiting) (distinct : state.HasDistinctPeers)
    (other : ∀ fault, event ≠ .accept fault) (stepped : state.step? event = some next) :
    ∃ acceptedNow waitingNow, next.Queues acceptedNow waitingNow ∧
      acceptedNow.map Connection.noDelay = accepted.map Connection.noDelay := by
  obtain ⟨moved, same, each⟩ := moves_of_step? distinct stepped
  rw [queues.order] at each
  -- The moved connections are divided as they were before.
  have front := List.forall₂_take accepted.length each
  have back := List.forall₂_drop accepted.length each
  rw [List.take_left] at front
  rw [List.drop_left] at back
  refine ⟨moved.take accepted.length, moved.drop accepted.length ++ event.arrivals,
    ⟨?_, ?_, ?_, ?_⟩, ?_⟩
  · rw [same, ← List.append_assoc, List.take_append_drop]
  · exact forall_of_forall₂ front (fun move taken => mt (move.waiting_iff other).mp taken)
      queues.taken
  · intro connection member
    rcases List.mem_append.mp member with old | arrived
    · exact forall_of_forall₂ back (fun move left => (move.waiting_iff other).mpr left) queues.left
        connection old
    · -- Whoever has just connected waits.
      cases event with
      | connect peer =>
        rw [List.mem_singleton.mp arrived]
      | _ => cases arrived
  · rw [accepted_of_step? other stepped, queues.reported, map_peer_of_forall₂ front]
  · exact map_noDelay_of_forall₂ other front

end Queues

/-- In every state that a run leads to, the connections that have been accepted come before those
that wait, and their streams have been asked in the same order. -/
theorem exists_queues_of_run? {server : Server} {events : List Event}
    (ran : (initial server).run? events = some state) :
    ∃ accepted waiting, state.Queues accepted waiting ∧
      accepted.map Connection.noDelay =
        events.filterMap (Event.noDelay? server.settings.nodelay) := by
  -- Accepting moves the border between the two, and no other step does.
  refine (run?_induction (motive := fun events state => ∃ accepted waiting,
    state.Queues accepted waiting ∧ accepted.map Connection.noDelay =
      events.filterMap (Event.noDelay? server.settings.nodelay)) ?_ ?_ ran).2
  · exact ⟨[], [], ⟨rfl, List.forall_mem_nil _, List.forall_mem_nil _, rfl⟩, rfl⟩
  · rintro events state event next reached ⟨accepted, waiting, queues, asked⟩ stepped
    have distinct := reached.hasDistinctPeers
    rw [List.filterMap_append, ← asked]
    by_cases accepting : ∃ fault, event = .accept fault
    · -- What comes of asking the next stream comes behind all others.
      obtain ⟨fault, rfl⟩ := accepting
      obtain ⟨first, rest, -, now⟩ := queues.accept distinct stepped
      rw [reached.nodelay_eq] at now
      exact ⟨_, _, now, by simp [Event.noDelay?]⟩
    · obtain ⟨acceptedNow, waitingNow, now, same⟩ :=
        queues.stay distinct (not_exists.mp accepting) stepped
      refine ⟨acceptedNow, waitingNow, now, ?_⟩
      rw [same, Event.noDelay?_of_ne (not_exists.mp accepting)]
      exact (List.append_nil _).symm

/-- Both streams of two clients that come one after the other are asked and agree. -/
example :
    let server : Server := ⟨{ nodelay := true }, ⟨1⟩, none⟩
    let steps : List ClientStep :=
      [.connect 1, .send 1 (Request.single 7 0).encode, .receive 1, .connect 2]
    let (results, state) := server.play {} [] steps
    results = [.connected, .sent, .received [7, 0, 0, 0, 0, 0, 0, 0], .connected] ∧
      (state.connections.filter Connection.isAccepted).map Connection.noDelay =
        [.agreed, .agreed] := by
  decide +kernel

/-- The connections are in the order in which their clients have connected. -/
theorem map_peer_of_run? {server : Server} {events : List Event}
    (ran : (initial server).run? events = some state) :
    state.connections.map Connection.peer = events.filterMap Event.connecting? := by
  refine (run?_induction (motive := fun events state =>
    state.connections.map Connection.peer = events.filterMap Event.connecting?) rfl ?_ ran).2
  intro events state event next reached before stepped
  -- Moves change no peer, and a new connection comes last.
  obtain ⟨moved, same, each⟩ := moves_of_step? reached.hasDistinctPeers stepped
  rw [same, List.map_append, map_peer_of_forall₂ each, before, List.filterMap_append]
  cases event <;> rfl

/-- Connections are accepted in the order in which they were made, each of them once. At any time
those that have been accepted come first, and the others wait: their clients have received nothing,
and everything in the log is about an accepted connection or a failed accept. Where the server can
take no step by itself, a connection waits only if exactly as many handlers are live as are allowed,
which none does without a limit. -/
theorem admission_in_order {settings : Settings} {factor : Factor} {server : Server}
    {events : List Event} (created : Server.create settings factor = .ok server)
    (ran : (initial server).run? events = some state) :
    state.connections.map Connection.peer = events.filterMap Event.connecting? ∧
    (state.connections.map Connection.peer).Nodup ∧
    ∃ accepted waiting, state.connections = accepted ++ waiting ∧
      state.log.filterMap LogRecord.accepted? = accepted.map Connection.peer ∧
      (∀ connection ∈ accepted, connection.phase ≠ .waiting) ∧
      (∀ connection ∈ waiting, connection.phase = .waiting ∧ connection.received = []) ∧
      state.log.Perm (accepted.flatMap Connection.reports ++
        (events.filterMap Event.acceptFault?).map LogRecord.acceptFailed) ∧
      (state.IsSettled → waiting ≠ [] →
        ∃ most, settings.maxConnections = some most ∧ state.live = most.toNat) := by
  -- The border between the accepted connections and the others divides the reports as well.
  have reached := reachable_of_run? ran
  have distinct := reached.hasDistinctPeers
  obtain ⟨accepted, waiting, queues, -⟩ := exists_queues_of_run? ran
  have inside {connection : Connection} (member : connection ∈ waiting) :
      connection ∈ state.connections := by
    rw [queues.order]
    exact List.mem_append_right accepted member
  refine ⟨map_peer_of_run? ran, distinct, accepted, waiting, queues.order, queues.reported,
    queues.taken, ?_, ?_, ?_⟩
  · intro connection member
    have waits := queues.left connection member
    have echoes := reached.echoes (distinct.connection?_of_mem (inside member))
    exact ⟨waits, echoes.received_eq_nil (by simp [waits])⟩
  · -- Nothing has been reported of a connection that waits.
    have silent : waiting.flatMap Connection.reports = [] := by
      refine List.flatMap_eq_nil_iff.mpr fun connection member => ?_
      simp [Connection.reports, queues.left connection member]
    have logged := log_perm_of_run? ran
    rwa [queues.order, List.flatMap_append, silent, List.append_nil] at logged
  · intro settled some
    obtain ⟨first, member⟩ := List.exists_mem_of_ne_nil waiting some
    exact reached.full_of_waiting created settled (inside member) (queues.left first member)

/-- With a single slot, the second and the third client wait in this order behind the first one,
whose request is not yet whole. -/
theorem admission_in_order_single_slot :
    let first : Endpoint := ⟨.loopback, 1⟩
    let second : Endpoint := ⟨.loopback, 2⟩
    let third : Endpoint := ⟨.loopback, 3⟩
    let events : List Event := [.connect first, .acquire, .acceptFailed (.ofKind .other),
      .connect second, .acquire, .connect third, .accept none,
      .send first ((Request.single 7 0).encode.take 100)]
    ∃ server state, Server.create { maxConnections := some 1 } ⟨1⟩ = .ok server ∧
      (initial server).run? events = some state ∧ state.IsSettled ∧
      ∃ accepted waiting, state.connections = accepted ++ waiting ∧
        accepted.map Connection.peer = [first] ∧ waiting.map Connection.peer = [second, third] ∧
        (∀ connection ∈ waiting, connection.phase = .waiting ∧ connection.received = []) ∧
        state.live = 1 := by
  -- The one permit is taken by the first client, and nothing the server can do is left.
  intro first second third events
  let server : Server := ⟨{ maxConnections := some 1 }, ⟨1⟩, some { free := 1 }⟩
  have created : Server.create { maxConnections := some 1 } ⟨1⟩ = .ok server := rfl
  have shown : ((initial server).run? events).map (fun state =>
      (state.serverEvent?, state.log.filterMap LogRecord.accepted?)) = some (none, [first]) := by
    decide +kernel
  obtain ⟨state, ran, same⟩ := Option.map_eq_some_iff.mp shown
  obtain ⟨idle, logged⟩ := Prod.mk.inj same
  have settled : state.IsSettled := isSettled_of_serverEvent? idle
  obtain ⟨order, -, accepted, waiting, divided, reported, -, waits, -, full⟩ :=
    admission_in_order created ran
  have taken : accepted.map Connection.peer = [first] := reported.symm.trans logged
  have left : waiting.map Connection.peer = [second, third] := by
    rw [divided, List.map_append, taken] at order
    exact List.append_cancel_left (order.trans rfl)
  obtain ⟨most, limited, live⟩ := full settled (by rintro rfl; cases left)
  obtain rfl : 1 = most := Option.some.inj limited
  exact ⟨server, state, created, ran, settled, accepted, waiting, divided, taken, left, waits, live⟩

end State

end LoadServer
