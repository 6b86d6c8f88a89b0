import LoadServer.Server.State
import Mathlib

/-!
What a step of the server does, and what it makes of each connection. Main statement: every
connection moves by itself, and a new one comes last.
-/

namespace LoadServer

namespace Phase

variable {phase : Phase} {millis : Nat}

/-- Time is nothing to a connection that waits. -/
theorem after_eq_waiting_iff : phase.after millis = .waiting ↔ phase = .waiting := by
  cases phase <;> simp [after]

/-- Time is nothing to a handler that reads. -/
theorem after_eq_reading_iff : phase.after millis = .reading ↔ phase = .reading := by
  cases phase <;> simp [after]

/-- Time is nothing to a handler that has ended. -/
theorem after_eq_finished_iff {handling : Handling} :
    phase.after millis = .finished handling ↔ phase = .finished handling := by
  -- Time ends no phase.
  cases phase <;> simp [after]

/-- A handler that works after some time has worked before. -/
theorem exists_working_of_after {left : Nat} (works : phase.after millis = .working left) :
    ∃ more, phase = .working more := by
  -- Only the time of the work is shortened.
  cases phase with
  | working more => exact ⟨more, rfl⟩
  | _ => cases works

end Phase

/-- A connection waits as long as it is not accepted. -/
theorem Connection.isAccepted_eq_false_iff {connection : Connection} :
    connection.isAccepted = false ↔ connection.phase = .waiting := by
  -- Every phase behind waiting is that of an accepted connection.
  cases phase : connection.phase <;> simp [isAccepted, phase]

namespace State

variable {state next : State} {peer : Endpoint}

/-! ## When a step can be taken, and where it leads -/

/-- Without a limit the accept loop always gets on, and else it needs a free permit. -/
theorem acquire?_eq_some_iff :
    state.acquire? = some next ↔
      state.admitting = false ∧ state.stopped = false ∧
        ((state.permits = none ∧ { state with admitting := true } = next) ∨
          ∃ permits, state.permits = some permits ∧
            ((∃ left, permits.acquire = .granted left ∧
                { state with admitting := true, permits := some left } = next) ∨
              (permits.acquire = .refused ∧ { state with stopped := true } = next))) := by
  -- The accept loop asks only while it holds nothing, and what it gets decides the rest.
  unfold acquire?
  cases state.admitting with
  | true => simp
  | false =>
    cases state.stopped with
    | true => simp
    | false =>
      cases state.permits with
      | none => simp
      | some permits => cases asked : permits.acquire <;> simp [asked]

/-- A failed accept needs an accept loop that may accept. -/
theorem acceptFailed?_eq_some_iff {fault : IoFault} :
    state.acceptFailed? fault = some next ↔
      state.admitting = true ∧
        { (state.release.note (.acceptFailed fault)) with admitting := false } = next := by
  -- An accept can only fail while one is under way.
  unfold acceptFailed?
  cases state.admitting <;> simp

/-- The connection that has waited longest is one that waits. -/
theorem firstWaiting?_eq_some {connection : Connection}
    (found : state.firstWaiting? = some connection) :
    connection ∈ state.connections ∧ connection.phase = .waiting := by
  -- The search passes over every phase but one.
  refine ⟨List.mem_of_find?_eq_some found, ?_⟩
  have waits := List.find?_some found
  cases phase : connection.phase with
  | waiting => rfl
  | reading => simp [phase] at waits
  | working left => simp [phase] at waits
  | finished handling => simp [phase] at waits

/-- A connection is accepted by an accept loop that may accept, if one waits, whatever comes of
asking its stream. -/
theorem accept?_eq_some_iff {fault : Option IoFault} :
    state.accept? fault = some next ↔
      state.admitting = true ∧ ∃ connection, state.firstWaiting? = some connection ∧
        state.launch connection.peer (.ask state.nodelay fault) = next := by
  -- Accepting takes a connection that waits, and asks its stream for what is set.
  unfold accept?
  cases state.admitting <;> simp

/-- What comes of asking its stream does not decide whether a connection is accepted. -/
theorem isSome_accept? (state : State) (fault : Option IoFault) :
    (state.accept? fault).isSome = (state.admitting && state.firstWaiting?.isSome) := by
  -- Whether the stream fails at its option does not keep it from being accepted.
  unfold accept?
  cases state.admitting <;> simp

/-- A handler proceeds once it has its request or knows that there will be none. -/
theorem read?_eq_some_iff :
    state.read? peer = some next ↔
      ∃ connection, state.connection? peer = some connection ∧ connection.phase = .reading ∧
        connection.isReady = true ∧
          state.proceed peer (connection.served state.factor {}) = next := by
  -- Of all phases only one reads.
  unfold read?
  cases state.connection? peer with
  | none => simp
  | some connection => cases phase : connection.phase <;> simp [phase]

/-- Where the server can take no step by itself, a handler that reads has to wait for more. -/
theorem IsSettled.isReady_eq_false (settled : state.IsSettled) {connection : Connection}
    (found : state.connection? peer = some connection) (reading : connection.phase = .reading) :
    connection.isReady = false := by
  -- A settled server reads nothing, although this connection could be read.
  rw [Bool.eq_false_iff]
  intro ready
  have blocked : state.read? peer = none := settled (.read peer) rfl
  rw [read?_eq_some_iff.mpr ⟨connection, found, reading, ready, rfl⟩] at blocked
  cases blocked

/-- A handler can fail to read as long as it reads. -/
theorem readFailed?_eq_some_iff {fault : IoFault} :
    state.readFailed? peer fault = some next ↔
      ∃ connection, state.connection? peer = some connection ∧ connection.phase = .reading ∧
        fault.isInterruption = false ∧
          state.conclude peer (handle state.factor { reads := [.fail fault] }) = next := by
  -- Of all phases only one reads.
  unfold readFailed?
  cases state.connection? peer with
  | none => simp
  | some connection => cases phase : connection.phase <;> simp [phase]

/-- A handler ends once it has no time left to spend. -/
theorem finish?_eq_some_iff {sequel : Sequel} :
    state.finish? peer sequel = some next ↔
      ∃ connection, state.connection? peer = some connection ∧ connection.phase = .working 0 ∧
        state.conclude peer (connection.served state.factor sequel) = next := by
  -- Time is spent in a single phase, and is over when none of it is left.
  unfold finish?
  cases state.connection? peer with
  | none => simp
  | some connection =>
    cases phase : connection.phase with
    | waiting => simp [phase]
    | reading => simp [phase]
    | working left => cases left <;> simp [phase]
    | finished handling => simp [phase]

/-- A client connects from an endpoint that no connection has come from. -/
theorem connect?_eq_some_iff :
    state.connect? peer = some next ↔
      state.connection? peer = none ∧
        { state with connections := state.connections ++ [{ peer := peer }] } = next := by
  -- Only the endpoint of an earlier connection is refused.
  unfold connect?
  cases state.connection? peer <;> simp

/-- A client sends until it ends its sending side. -/
theorem send?_eq_some_iff {bytes : Bytes} :
    state.send? peer bytes = some next ↔
      ∃ connection, state.connection? peer = some connection ∧ connection.ended = false ∧
        (state.update peer fun found => { found with sent := found.sent ++ bytes }) = next := by
  -- Nothing can be sent without a connection, or after its sending side has ended.
  unfold send?
  cases state.connection? peer with
  | none => simp
  | some connection => cases ended : connection.ended <;> simp [ended]

/-- A client ends its sending side as long as the connection is open. -/
theorem shutdown?_eq_some_iff :
    state.shutdown? peer = some next ↔
      ∃ connection, state.connection? peer = some connection ∧ connection.closed = false ∧
        (state.update peer fun found => { found with ended := true }) = next := by
  -- A closed connection has no sending side left to end.
  unfold shutdown?
  cases state.connection? peer with
  | none => simp
  | some connection => cases closed : connection.closed <;> simp [closed]

/-- A client ends a connection once. -/
theorem close?_eq_some_iff :
    state.close? peer = some next ↔
      ∃ connection, state.connection? peer = some connection ∧ connection.closed = false ∧
        (state.update peer fun found => { found with ended := true, closed := true }) = next := by
  -- A connection is closed once.
  unfold close?
  cases state.connection? peer with
  | none => simp
  | some connection => cases closed : connection.closed <;> simp [closed]

/-- A client receives what is outstanding as long as the connection is open. -/
theorem receive?_eq_some_iff :
    state.receive? peer = some next ↔
      ∃ connection bytes, state.connection? peer = some connection ∧ connection.closed = false ∧
        connection.outstanding? = some bytes ∧
          (state.update peer fun found => { found with received := found.received ++ bytes }) =
            next := by
  -- A client receives while it has not closed, and only what its handler has written.
  unfold receive?
  cases state.connection? peer with
  | none => simp
  | some connection => cases closed : connection.closed <;> simp [closed, Option.bind_eq_some_iff]

/-! ## Connections under a step -/

/-- No two connections come from one endpoint. -/
def HasDistinctPeers (state : State) : Prop :=
  (state.connections.map Connection.peer).Nodup

/-- The connection of a client is the only one from its endpoint. -/
theorem HasDistinctPeers.eq_of_mem (distinct : state.HasDistinctPeers) {connection : Connection}
    (found : state.connection? peer = some connection) {other : Connection}
    (member : other ∈ state.connections) (same : other.peer = peer) : other = connection := by
  -- Two connections with one peer would be one peer twice.
  have inside := List.mem_of_find?_eq_some found
  have named : connection.peer = peer := by simpa using List.find?_some found
  exact List.inj_on_of_nodup_map distinct member inside (same.trans named.symm)

/-- A connection with its peer distinct from all others is the one of its client. -/
theorem HasDistinctPeers.connection?_of_mem (distinct : state.HasDistinctPeers)
    {connection : Connection} (member : connection ∈ state.connections) :
    state.connection? connection.peer = some connection := by
  -- The search stops at some connection with that peer, and there is no other.
  cases found : state.connection? connection.peer with
  | none =>
    have missed := List.find?_eq_none.mp found connection member
    simp at missed
  | some other => rw [distinct.eq_of_mem found member rfl]

end State

/-- Whether an event is about the connection of a client. -/
def Event.concerns (peer : Endpoint) : Event → Bool
  | .acquire => false
  | .acceptFailed _ => false
  | .accept _ => false
  | .elapse _ => true
  | .read other => other == peer
  | .readFailed other _ => other == peer
  | .finish other _ => other == peer
  | .connect other => other == peer
  | .send other _ => other == peer
  | .shutdown other => other == peer
  | .close other => other == peer
  | .receive other => other == peer

/-- The connections that an event adds. -/
def Event.arrivals : Event → List Connection
  | .connect peer => [{ peer := peer }]
  | _ => []

/-- What an event makes of a connection, seen from that connection alone. -/
inductive Connection.Moves (factor : Factor) : Event → Connection → Connection → Prop where
  /-- The event is about something else. -/
  | rest {event : Event} {connection : Connection}
      (elsewhere : event.concerns connection.peer = false) :
      Moves factor event connection connection
  | accept {connection : Connection} {fault : Option IoFault} {noDelay : NoDelay}
      (waiting : connection.phase = .waiting) :
      Moves factor (.accept fault) connection
        { connection with phase := .reading, noDelay := noDelay }
  | work {connection : Connection} (reading : connection.phase = .reading)
      (ready : connection.isReady = true)
      (done : (connection.served factor {}).outcome = .ok ()) :
      Moves factor (.read connection.peer) connection
        { connection with phase := .working (connection.served factor {}).slept }
  | giveUp {connection : Connection} {fault : ConnectionFault}
      (reading : connection.phase = .reading) (ready : connection.isReady = true)
      (failed : (connection.served factor {}).outcome = .error fault) :
      Moves factor (.read connection.peer) connection
        { connection with phase := .finished (connection.served factor {}) }
  | readFailed {connection : Connection} {fault : IoFault}
      (reading : connection.phase = .reading) (final : fault.isInterruption = false) :
      Moves factor (.readFailed connection.peer fault) connection
        { connection with phase := .finished (handle factor { reads := [.fail fault] }) }
  | finish {connection : Connection} {sequel : Sequel}
      (spent : connection.phase = .working 0) :
      Moves factor (.finish connection.peer sequel) connection
        { connection with phase := .finished (connection.served factor sequel) }
  | elapse {connection : Connection} {millis : Nat} :
      Moves factor (.elapse millis) connection
        { connection with phase := connection.phase.after millis }
  | send {connection : Connection} {bytes : Bytes} (sending : connection.ended = false) :
      Moves factor (.send connection.peer bytes) connection
        { connection with sent := connection.sent ++ bytes }
  | shutdown {connection : Connection} (isOpen : connection.closed = false) :
      Moves factor (.shutdown connection.peer) connection { connection with ended := true }
  | close {connection : Connection} (isOpen : connection.closed = false) :
      Moves factor (.close connection.peer) connection
        { connection with ended := true, closed := true }
  | receive {connection : Connection} {bytes : Bytes} (isOpen : connection.closed = false)
      (outstanding : connection.outstanding? = some bytes) :
      Moves factor (.receive connection.peer) connection
        { connection with received := connection.received ++ bytes }

namespace State

/-- Changing one connection moves it and leaves the others at rest. -/
theorem forall₂_update {state : State} {peer : Endpoint} {factor : Factor} {event : Event}
    {connection : Connection} {change : Connection → Connection}
    (distinct : state.HasDistinctPeers) (found : state.connection? peer = some connection)
    (moved : Connection.Moves factor event connection (change connection))
    (elsewhere : ∀ other : Endpoint, other ≠ peer → event.concerns other = false) :
    List.Forall₂ (Connection.Moves factor event) state.connections
      (state.update peer change).connections := by
  -- The changed connection is told by its peer, and the event is about no other peer.
  rw [update, List.forall₂_map_right_iff, List.forall₂_same]
  intro other member
  by_cases same : other.peer = peer
  · obtain rfl := distinct.eq_of_mem found member same
    simpa [same] using moved
  · simpa [same] using Connection.Moves.rest (elsewhere other.peer same)

/-- A handler that ends changes its own connection and no other. -/
@[simp] theorem connections_conclude (state : State) (peer : Endpoint) (handling : Handling) :
    (state.conclude peer handling).connections =
      (state.update peer fun found => { found with phase := .finished handling }).connections := by
  -- Neither the release of the permit nor the record touches the connections.
  cases ended : handling.outcome <;> simp [conclude, ended, release, note]

/-- A handler that ends gives its permit back. -/
@[simp] theorem permits_conclude (state : State) (peer : Endpoint) (handling : Handling) :
    (state.conclude peer handling).permits = state.permits.map Permits.release := by
  -- The permit is released whatever the outcome was.
  cases ended : handling.outcome <;> simp [conclude, ended, release, note, update]

/-- A handler that ends leaves the accept loop where it was. -/
@[simp] theorem admitting_conclude (state : State) (peer : Endpoint) (handling : Handling) :
    (state.conclude peer handling).admitting = state.admitting := by
  -- The accept loop does not take part in the end of a handler.
  cases ended : handling.outcome <;> simp [conclude, ended, release, note, update]

/-- A handler that ends does not end the accept loop. -/
@[simp] theorem stopped_conclude (state : State) (peer : Endpoint) (handling : Handling) :
    (state.conclude peer handling).stopped = state.stopped := by
  -- A released permit never stops the server.
  cases ended : handling.outcome <;> simp [conclude, ended, release, note, update]

/-- The peer of a found connection is the one that was looked for. -/
theorem peer_of_connection? {state : State} {peer : Endpoint} {connection : Connection}
    (found : state.connection? peer = some connection) : connection.peer = peer := by
  -- The search compares peers.
  simpa using List.find?_some found

/-- In every step each connection moves by itself, and a new one comes last. -/
theorem moves_of_step? {state next : State} {event : Event} (distinct : state.HasDistinctPeers)
    (stepped : state.step? event = some next) :
    ∃ moved, next.connections = moved ++ event.arrivals ∧
      List.Forall₂ (Connection.Moves state.factor event) state.connections moved := by
  -- Most events change the one connection that they name.
  have lone {connection : Connection} (found : state.connection? connection.peer = some connection)
      (change : Connection → Connection)
      (same : next.connections = (state.update connection.peer change).connections)
      (none : event.arrivals = [])
      (moved : Connection.Moves state.factor event connection (change connection))
      (named : ∀ other, event.concerns other = (connection.peer == other)) :
      ∃ moved, next.connections = moved ++ event.arrivals ∧
        List.Forall₂ (Connection.Moves state.factor event) state.connections moved := by
    refine ⟨_, by rw [none, List.append_nil, same], forall₂_update distinct found moved ?_⟩
    intro other differs
    simpa [named] using differs.symm
  -- The accept loop on its own leaves all connections at rest.
  have still (same : next.connections = state.connections) (none : event.arrivals = [])
      (elsewhere : ∀ other : Endpoint, event.concerns other = false) :
      ∃ moved, next.connections = moved ++ event.arrivals ∧
        List.Forall₂ (Connection.Moves state.factor event) state.connections moved :=
    ⟨state.connections, by rw [none, List.append_nil, same],
      List.forall₂_same.mpr fun other _ => .rest (elsewhere other.peer)⟩
  cases event with
  | acquire =>
    obtain ⟨-, -, granted⟩ := acquire?_eq_some_iff.mp stepped
    rcases granted with ⟨-, rfl⟩ | ⟨permits, -, ⟨left, -, rfl⟩ | ⟨-, rfl⟩⟩ <;>
      exact still rfl rfl fun _ => rfl
  | acceptFailed fault =>
    obtain ⟨-, rfl⟩ := acceptFailed?_eq_some_iff.mp stepped
    exact still rfl rfl fun _ => rfl
  | accept fault =>
    obtain ⟨-, connection, first, rfl⟩ := accept?_eq_some_iff.mp stepped
    obtain ⟨member, waiting⟩ := firstWaiting?_eq_some first
    exact ⟨_, (List.append_nil _).symm,
      forall₂_update distinct (distinct.connection?_of_mem member) (.accept waiting) fun _ _ => rfl⟩
  | read peer =>
    obtain ⟨connection, found, reading, ready, rfl⟩ := read?_eq_some_iff.mp stepped
    obtain rfl := peer_of_connection? found
    cases outcome : (connection.served state.factor {}).outcome with
    | error fault =>
      have same : (state.proceed connection.peer (connection.served state.factor {})).connections =
          (state.update connection.peer fun found =>
            { found with phase := .finished (connection.served state.factor {}) }).connections := by
        simp [proceed, outcome, update]
      exact lone found _ same rfl (.giveUp reading ready outcome) fun _ => rfl
    | ok =>
      have same : (state.proceed connection.peer (connection.served state.factor {})).connections =
          (state.update connection.peer fun found => { found with
            phase := .working (connection.served state.factor {}).slept }).connections := by
        simp [proceed, outcome, update]
      exact lone found _ same rfl (.work reading ready outcome) fun _ => rfl
  | readFailed peer fault =>
    obtain ⟨connection, found, reading, final, rfl⟩ := readFailed?_eq_some_iff.mp stepped
    obtain rfl := peer_of_connection? found
    exact lone found _ (connections_conclude ..) rfl (.readFailed reading final) fun _ => rfl
  | finish peer sequel =>
    obtain ⟨connection, found, spent, rfl⟩ := finish?_eq_some_iff.mp stepped
    obtain rfl := peer_of_connection? found
    exact lone found _ (connections_conclude ..) rfl (.finish spent) fun _ => rfl
  | elapse millis =>
    cases stepped
    refine ⟨(state.elapse millis).connections, (List.append_nil _).symm, ?_⟩
    rw [elapse, List.forall₂_map_right_iff, List.forall₂_same]
    exact fun _ _ => .elapse
  | connect peer =>
    obtain ⟨free, rfl⟩ := connect?_eq_some_iff.mp stepped
    refine ⟨state.connections, rfl, List.forall₂_same.mpr fun other member => .rest ?_⟩
    have differs : other.peer ≠ peer := by simpa using List.find?_eq_none.mp free other member
    simpa [Event.concerns] using differs.symm
  | send peer bytes =>
    obtain ⟨connection, found, sending, rfl⟩ := send?_eq_some_iff.mp stepped
    obtain rfl := peer_of_connection? found
    exact lone found _ rfl rfl (.send sending) fun _ => rfl
  | shutdown peer =>
    obtain ⟨connection, found, isOpen, rfl⟩ := shutdown?_eq_some_iff.mp stepped
    obtain rfl := peer_of_connection? found
    exact lone found _ rfl rfl (.shutdown isOpen) fun _ => rfl
  | close peer =>
    obtain ⟨connection, found, isOpen, rfl⟩ := close?_eq_some_iff.mp stepped
    obtain rfl := peer_of_connection? found
    exact lone found _ rfl rfl (.close isOpen) fun _ => rfl
  | receive peer =>
    obtain ⟨connection, bytes, found, isOpen, outstanding, rfl⟩ := receive?_eq_some_iff.mp stepped
    obtain rfl := peer_of_connection? found
    exact lone found _ rfl rfl (.receive isOpen outstanding) fun _ => rfl

/-- Only asking for a permit can take one or end the accept loop, and any other step leaves the
permits as they were or gives one back. -/
theorem permits_of_step? {state next : State} {event : Event} (other : event ≠ .acquire)
    (stepped : state.step? event = some next) :
    next.stopped = state.stopped ∧
      (next.permits = state.permits ∨ next.permits = state.permits.map Permits.release) := by
  -- Permits come back where a handler ends or an accept fails, and nowhere else.
  cases event with
  | acquire => exact absurd rfl other
  | acceptFailed fault =>
    obtain ⟨-, rfl⟩ := acceptFailed?_eq_some_iff.mp stepped
    exact ⟨rfl, .inr rfl⟩
  | accept fault =>
    obtain ⟨-, connection, -, rfl⟩ := accept?_eq_some_iff.mp stepped
    exact ⟨rfl, .inl rfl⟩
  | read peer =>
    obtain ⟨connection, -, -, -, rfl⟩ := read?_eq_some_iff.mp stepped
    cases outcome : (connection.served state.factor {}).outcome <;>
      simp [proceed, outcome, update]
  | readFailed peer fault =>
    obtain ⟨connection, -, -, -, rfl⟩ := readFailed?_eq_some_iff.mp stepped
    exact ⟨stopped_conclude .., .inr (permits_conclude ..)⟩
  | finish peer sequel =>
    obtain ⟨connection, -, -, rfl⟩ := finish?_eq_some_iff.mp stepped
    exact ⟨stopped_conclude .., .inr (permits_conclude ..)⟩
  | elapse millis =>
    cases stepped
    exact ⟨rfl, .inl rfl⟩
  | connect peer =>
    obtain ⟨-, rfl⟩ := connect?_eq_some_iff.mp stepped
    exact ⟨rfl, .inl rfl⟩
  | send peer bytes =>
    obtain ⟨connection, -, -, rfl⟩ := send?_eq_some_iff.mp stepped
    exact ⟨rfl, .inl rfl⟩
  | shutdown peer =>
    obtain ⟨connection, -, -, rfl⟩ := shutdown?_eq_some_iff.mp stepped
    exact ⟨rfl, .inl rfl⟩
  | close peer =>
    obtain ⟨connection, -, -, rfl⟩ := close?_eq_some_iff.mp stepped
    exact ⟨rfl, .inl rfl⟩
  | receive peer =>
    obtain ⟨connection, bytes, -, -, -, rfl⟩ := receive?_eq_some_iff.mp stepped
    exact ⟨rfl, .inl rfl⟩

/-- A connection keeps its peer in every move. -/
theorem peer_of_moves {factor : Factor} {event : Event} {before after : Connection}
    (moved : Connection.Moves factor event before after) : after.peer = before.peer := by
  -- No move gives a connection another peer.
  cases moved <;> rfl

/-- Connections that move by themselves keep their peers in order. -/
theorem map_peer_of_forall₂ {factor : Factor} {event : Event} {before after : List Connection}
    (each : List.Forall₂ (Connection.Moves factor event) before after) :
    after.map Connection.peer = before.map Connection.peer := by
  -- Each connection keeps its peer by itself.
  induction each with
  | nil => rfl
  | cons move _ ih => rw [List.map_cons, List.map_cons, peer_of_moves move, ih]

/-- A step keeps the peers of connections distinct. -/
theorem HasDistinctPeers.step? {state next : State} {event : Event}
    (distinct : state.HasDistinctPeers) (stepped : state.step? event = some next) :
    next.HasDistinctPeers := by
  -- Moves change no peer, so only a new connection could repeat one.
  have before : (state.connections.map Connection.peer).Nodup := distinct
  obtain ⟨moved, same, each⟩ := moves_of_step? distinct stepped
  rw [HasDistinctPeers, same, List.map_append, map_peer_of_forall₂ each]
  cases event with
  | connect peer =>
    -- Only a client that is not connected can add a connection.
    obtain ⟨free, -⟩ := connect?_eq_some_iff.mp stepped
    have fresh : peer ∉ state.connections.map Connection.peer := by
      intro used
      obtain ⟨connection, member, rfl⟩ := List.mem_map.mp used
      simpa using List.find?_eq_none.mp free connection member
    simpa [Event.arrivals] using before.concat fresh
  | _ => simpa [Event.arrivals] using before

/-- No two connections of a reachable state come from one endpoint. -/
theorem Reachable.hasDistinctPeers {server : Server} {state : State}
    (reached : Reachable server state) : state.HasDistinctPeers := by
  -- There are no connections at the start.
  induction reached with
  | initial => exact List.nodup_nil
  | step _ stepped ih => exact ih.step? stepped

/-- The last step of a run is taken from where its other steps lead. -/
theorem run?_append_singleton_eq_some {state next : State} {events : List Event} {event : Event}
    (ran : state.run? (events ++ [event]) = some next) :
    ∃ before, state.run? events = some before ∧ before.step? event = some next := by
  -- A run with one more event is a shorter run and one step.
  rw [run?, List.foldlM_append] at ran
  obtain ⟨before, ranBefore, last⟩ := Option.bind_eq_some_iff.mp ran
  exact ⟨before, ranBefore, by simpa using last⟩

/-- What holds at the start of a run and survives every step holds after the run. -/
theorem run?_induction {server : Server} {motive : List Event → State → Prop}
    (start : motive [] (initial server))
    (step : ∀ events state event next, Reachable server state → motive events state →
      state.step? event = some next → motive (events ++ [event]) next)
    {events : List Event} {state : State} (ran : (initial server).run? events = some state) :
    Reachable server state ∧ motive events state := by
  -- A run grows by its last step.
  induction events using List.reverseRecOn generalizing state with
  | nil =>
    cases ran
    exact ⟨.initial, start⟩
  | append_singleton events event ih =>
    obtain ⟨before, ranBefore, stepped⟩ := run?_append_singleton_eq_some ran
    obtain ⟨reached, holds⟩ := ih ranBefore
    exact ⟨.step reached stepped, step events before event state reached holds stepped⟩

/-- A run leads to a reachable state. -/
theorem reachable_of_run? {server : Server} {events : List Event} {state : State}
    (ran : (initial server).run? events = some state) : Reachable server state :=
  -- The induction over runs carries along that the state is reached.
  (run?_induction (motive := fun _ _ => True) trivial (fun _ _ _ _ _ _ _ => trivial) ran).1

/-- Where each connection moves by itself, the connection of one client does. -/
theorem rel_find?_of_forall₂ {factor : Factor} {event : Event} {before after : List Connection}
    (each : List.Forall₂ (Connection.Moves factor event) before after) (peer : Endpoint) :
    Option.Rel (Connection.Moves factor event)
      (before.find? fun connection => connection.peer == peer)
      (after.find? fun connection => connection.peer == peer) := by
  -- Both searches stop at the same place, since moves keep peers.
  induction each with
  | nil => exact .none
  | cons move _ ih =>
    simp only [List.find?_cons, peer_of_moves move]
    split
    · exact .some move
    · exact ih

/-- In every step the connection of a client moves by itself. -/
theorem connection?_of_step? {state next : State} {event : Event} {peer : Endpoint}
    {connection : Connection} (distinct : state.HasDistinctPeers)
    (stepped : state.step? event = some next) (found : state.connection? peer = some connection) :
    ∃ moved, next.connection? peer = some moved ∧
      Connection.Moves state.factor event connection moved := by
  -- The moved connections come first, so the search finds the one that has moved.
  obtain ⟨after, same, each⟩ := moves_of_step? distinct stepped
  have related := rel_find?_of_forall₂ each peer
  change state.connections.find? _ = _ at found
  rw [found] at related
  cases located : after.find? fun connection => connection.peer == peer with
  | none =>
    rw [located] at related
    cases related
  | some moved =>
    rw [located] at related
    cases related with
    | some move =>
      refine ⟨moved, ?_, move⟩
      rw [connection?, same, List.find?_append, located, Option.some_or]

/-- A connection that is found after a step and was not there before it arrives in the step. -/
theorem mem_arrivals_of_step? {state next : State} {event : Event} {peer : Endpoint}
    {connection : Connection} (distinct : state.HasDistinctPeers)
    (stepped : state.step? event = some next) (absent : state.connection? peer = none)
    (found : next.connection? peer = some connection) : connection ∈ event.arrivals := by
  -- What is found is not among the moved connections, which keep their peers.
  obtain ⟨after, same, each⟩ := moves_of_step? distinct stepped
  have related := rel_find?_of_forall₂ each peer
  change state.connections.find? _ = _ at absent
  rw [absent] at related
  cases located : after.find? fun connection => connection.peer == peer with
  | some moved =>
    rw [located] at related
    cases related
  | none =>
    rw [connection?, same, List.find?_append, located, Option.none_or] at found
    exact List.mem_of_find?_eq_some found

/-- A client that is not connected and is found after a step has just connected. -/
theorem eq_fresh_of_step? {state next : State} {event : Event} {peer : Endpoint}
    {connection : Connection} (distinct : state.HasDistinctPeers)
    (stepped : state.step? event = some next) (absent : state.connection? peer = none)
    (found : next.connection? peer = some connection) : connection = { peer := peer } := by
  -- Only connecting makes a connection appear, and this one has just begun.
  have arrived := mem_arrivals_of_step? distinct stepped absent found
  have named := peer_of_connection? found
  cases event with
  | connect client =>
    obtain rfl := List.mem_singleton.mp arrived
    rw [← named]
  | _ => cases arrived

/-- A connection that is found after a step has just been made, or it has moved in the step. -/
theorem fresh_or_moves_of_step? {state next : State} {event : Event} {peer : Endpoint}
    {connection : Connection} (distinct : state.HasDistinctPeers)
    (stepped : state.step? event = some next) (found : next.connection? peer = some connection) :
    (state.connection? peer = none ∧ connection = { peer := peer }) ∨
      ∃ earlier, state.connection? peer = some earlier ∧
        Connection.Moves state.factor event earlier connection := by
  -- No step takes a connection away, so it is the one that was there before, if there was one.
  cases before : state.connection? peer with
  | none => exact .inl ⟨rfl, eq_fresh_of_step? distinct stepped before found⟩
  | some earlier =>
    obtain ⟨moved, after, move⟩ := connection?_of_step? distinct stepped before
    obtain rfl : moved = connection := Option.some.inj (after.symm.trans found)
    exact .inr ⟨earlier, rfl, move⟩

/-- A client that is not connected after a step has not been connected before it. -/
theorem absent_of_step? {state next : State} {event : Event} {peer : Endpoint}
    (distinct : state.HasDistinctPeers) (stepped : state.step? event = some next)
    (missing : next.connection? peer = none) : state.connection? peer = none := by
  -- A connection that was there would be there still.
  cases before : state.connection? peer with
  | none => rfl
  | some earlier =>
    obtain ⟨moved, after, -⟩ := connection?_of_step? distinct stepped before
    rw [missing] at after
    cases after

end State

end LoadServer
