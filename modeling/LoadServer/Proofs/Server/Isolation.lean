import LoadServer.Proofs.Server.Faithful

/-!
A client of a server without a limit sees its own connection and nothing else. Main statement: what
its steps show is told by these steps alone, however the server works and whatever others do.
-/

namespace LoadServer

/-! ## What a client sees -/

/-- What a step shows to a client, and what the client knows of its connection after it, told by
what it knew before. -/
def ClientStep.seen (host : Host) : Option Connection → ClientStep → StepResult × Option Connection
  | known, .connect port =>
    if host.isolated then (.unreachable, known)
    else
      match known with
      | none => (.connected, some { peer := endpoint port })
      | some connection => (.misused, some connection)
  | known, .watch _ => (.quiet, known)
  | none, .receive _ => (.stuck, none)
  | none, _ => (.misused, none)
  | some connection, .send _ bytes =>
    if connection.ended then (.misused, some connection)
    else (.sent, some { connection with sent := connection.sent ++ bytes })
  | some connection, .shutdown _ =>
    if connection.closed then (.misused, some connection)
    else (.shut, some { connection with ended := true })
  | some connection, .close _ =>
    if connection.closed then (.misused, some connection)
    else (.closed, some { connection with ended := true, closed := true })
  | some connection, .receive _ =>
    if !connection.isReady then (.stuck, some connection)
    else if connection.closed then (.misused, some connection)
    else
      let bytes := (answer connection.sent).drop connection.received.length
      (.received bytes, some { connection with received := connection.received ++ bytes })

/-- What the steps of one client show to it one after another. -/
def ClientStep.seenAll (host : Host) (known : Option Connection) : List ClientStep → List StepResult
  | [] => []
  | step :: rest =>
    let (result, next) := seen host known step
    result :: seenAll host next rest

/-- The results of the steps that are about a port. -/
def resultsOf (port : UInt16) (steps : List ClientStep) (results : List StepResult) :
    List StepResult :=
  ((steps.zip results).filter fun taken => taken.1.port == port).map Prod.snd

/-- Different ports are different endpoints. -/
theorem ClientStep.endpoint_inj {port other : UInt16} :
    endpoint port = endpoint other ↔ port = other := by
  simp [endpoint]

namespace State

variable {state next last : State} {host : Host} {step : ClientStep} {result : StepResult}
  {peer : Endpoint}

/-- A changed connection is known as it is changed. -/
theorem known?_update {connection : Connection} (found : state.connection? peer = some connection)
    (change : Connection → Connection) (kept : ∀ other, (change other).peer = other.peer) :
    (state.update peer change).known? peer = some (change connection).outside := by
  -- The search looks at peers only, which the change leaves as they are.
  have same : (fun other : Connection =>
      (if other.peer == peer then change other else other).peer == peer) =
        fun other => other.peer == peer := by
    funext other
    split
    · rw [kept]
    · rfl
  have named := peer_of_connection? found
  change state.connections.find? _ = _ at found
  rw [known?, connection?, update, List.find?_map, Function.comp_def, same, found]
  simp [named]

section Acted

variable {event : Event} (act : step.act? = some (event, result))
  (through : host.isolated = true → ∀ port, step ≠ .connect port)

include act through

/-- A step in which the client takes its part shows what follows from what it knew. -/
theorem seen_of_acted (stepped : state.step? event = some next) :
    ClientStep.seen host (state.known? (ClientStep.endpoint step.port)) step =
      (result, next.known? (ClientStep.endpoint step.port)) := by
  -- Each part is played on the connection that the client knows, or makes one.
  cases step with
  | connect port =>
    cases act
    have networked : host.isolated = false := by
      rw [← Bool.not_eq_true]
      exact fun isolated => through isolated port rfl
    obtain ⟨free, rfl⟩ := connect?_eq_some_iff.mp stepped
    have missed : state.connections.find? (fun other => other.peer == ClientStep.endpoint port) =
      none := free
    simp [ClientStep.seen, ClientStep.port, networked, known?, connection?, missed,
      Connection.outside]
  | send port bytes =>
    cases act
    obtain ⟨connection, found, sending, rfl⟩ := send?_eq_some_iff.mp stepped
    have after := known?_update found (fun other => { other with sent := other.sent ++ bytes })
      fun _ => rfl
    rw [ClientStep.port, after]
    simp [ClientStep.seen, known?, found, Connection.outside, sending]
  | shutdown port =>
    cases act
    obtain ⟨connection, found, isOpen, rfl⟩ := shutdown?_eq_some_iff.mp stepped
    have after := known?_update found (fun other => { other with ended := true }) fun _ => rfl
    rw [ClientStep.port, after]
    simp [ClientStep.seen, known?, found, Connection.outside, isOpen]
  | close port =>
    cases act
    obtain ⟨connection, found, isOpen, rfl⟩ := close?_eq_some_iff.mp stepped
    have after := known?_update found (fun other => { other with ended := true, closed := true })
      fun _ => rfl
    rw [ClientStep.port, after]
    simp [ClientStep.seen, known?, found, Connection.outside, isOpen]
  | receive | watch => cases act

/-- A step in which the client cannot take its part shows so, and changes nothing. -/
theorem seen_of_misused (blocked : state.step? event = none) :
    ClientStep.seen host (state.known? (ClientStep.endpoint step.port)) step =
      (.misused, state.known? (ClientStep.endpoint step.port)) := by
  -- The part fails without a connection, or on one that does not allow it.
  cases step with
  | connect port =>
    cases act
    have networked : host.isolated = false := by
      rw [← Bool.not_eq_true]
      exact fun isolated => through isolated port rfl
    cases found : state.connection? (ClientStep.endpoint port) with
    | none => simp [step?, connect?, found] at blocked
    | some connection => simp [ClientStep.seen, ClientStep.port, networked, known?, found]
  | send port bytes =>
    cases act
    cases found : state.connection? (ClientStep.endpoint port) with
    | none => simp [ClientStep.seen, ClientStep.port, known?, found]
    | some connection =>
      have ended : connection.ended = true := by simpa [step?, send?, found] using blocked
      simp [ClientStep.seen, ClientStep.port, known?, found, Connection.outside, ended]
  | shutdown port | close port =>
    cases act
    cases found : state.connection? (ClientStep.endpoint port) with
    | none => simp [ClientStep.seen, ClientStep.port, known?, found]
    | some connection =>
      have closed : connection.closed = true := by
        simpa [step?, shutdown?, close?, found] using blocked
      simp [ClientStep.seen, ClientStep.port, known?, found, Connection.outside, closed]
  | receive | watch => cases act

end Acted

/-- What is outstanding on a connection that is served faithfully is what its client has not
received of the answer. -/
theorem IsFaithfulTo.exists_outstanding (faithful : state.IsFaithfulTo peer) {bytes : Bytes}
    (outstanding : (state.connection? peer).bind Connection.outstanding? = some bytes) :
    ∃ connection, state.connection? peer = some connection ∧ connection.isReady = true ∧
      bytes = (answer connection.sent).drop connection.received.length := by
  -- Only a finished handler has bytes outstanding, and those are faithful to what was sent.
  obtain ⟨connection, found, left⟩ := Option.bind_eq_some_iff.mp outstanding
  obtain ⟨handling, ended, rfl⟩ := Connection.outstanding?_eq_some_iff.mp left
  obtain ⟨ready, written⟩ := (faithful connection found).answered handling ended
  exact ⟨connection, found, ready, by rw [written]⟩

section Created

variable {settings : Settings} {factor : Factor} {server : Server}
  (unlimited : settings.maxConnections = none)
  (created : Server.create settings factor = .ok server)

include unlimited created

/-- At a server without a limit, what a step shows to a client is told by what the client knows of
its own connection. -/
theorem Takes.seen_eq (taken : state.Takes host step result next)
    (reached : Reachable server state)
    (faithful : state.IsFaithfulTo (ClientStep.endpoint step.port))
    (unwatched : step ≠ .watch step.port) :
    ClientStep.seen host (state.known? (ClientStep.endpoint step.port)) step =
      (result, next.known? (ClientStep.endpoint step.port)) := by
  cases taken with
  | unreachable isolated => simp [ClientStep.seen, isolated]
  | acted act through stepped => exact seen_of_acted act through stepped
  | misused act through blocked => exact seen_of_misused act through blocked
  | @received port bytes _ outstanding stepped =>
    -- The server has come to the end, so it has had all that it waited for.
    obtain ⟨connection, found, ready, rfl⟩ := faithful.exists_outstanding outstanding
    obtain ⟨same, left, foundSame, isOpen, leftSame, rfl⟩ := receive?_eq_some_iff.mp stepped
    simp only [ClientStep.port] at found ⊢
    obtain rfl : connection = same := Option.some.inj (found.symm.trans foundSame)
    simp only [found, Option.bind_some] at outstanding
    obtain rfl := Option.some.inj (leftSame.symm.trans outstanding)
    have after := known?_update found
      (fun other => { other with received := other.received ++
        (answer connection.sent).drop connection.received.length }) fun _ => rfl
    have readyOutside : connection.outside.isReady = true := ready
    rw [after, known?, found, Option.map_some]
    simp only [ClientStep.seen, readyOutside]
    simp [Connection.outside, isOpen]
  | @refused port bytes outstanding blocked =>
    obtain ⟨connection, found, ready, rfl⟩ := faithful.exists_outstanding outstanding
    simp only [ClientStep.port] at found ⊢
    simp only [found, Option.bind_some] at outstanding
    have closed : connection.closed = true := by
      rw [← Bool.not_eq_false]
      intro isOpen
      have stepped := receive?_eq_some_iff.mpr ⟨connection, _, found, isOpen, outstanding, rfl⟩
      simp [step?, stepped] at blocked
    have readyOutside : connection.outside.isReady = true := ready
    rw [known?, found, Option.map_some]
    simp only [ClientStep.seen, readyOutside]
    simp [Connection.outside, closed]
  | @stuck port never =>
    simp only [ClientStep.port]
    cases found : state.connection? (ClientStep.endpoint port) with
    | none => simp [ClientStep.seen, known?, found]
    | some connection =>
      -- An end would come to a connection that is ready for it.
      have unready : connection.outside.isReady = false := by
        rw [Connection.isReady_outside, ← Bool.not_eq_true]
        intro ready
        obtain ⟨later, worked, ended⟩ := reached.exists_hasEnded unlimited created found ready
        rw [never later worked] at ended
        cases ended
      rw [known?, found, Option.map_some]
      simp [ClientStep.seen, unready]
  | watched => exact absurd rfl unwatched

/-- At a server without a limit, what the steps of clients show to one of them is told by its own
steps. -/
theorem Plays.resultsOf_eq {port : UInt16} {steps : List ClientStep} {results : List StepResult}
    (played : state.Plays host (ClientStep.endpoint port) steps results last)
    (reached : Reachable server state)
    (faithful : state.IsFaithfulTo (ClientStep.endpoint port))
    (unwatched : ∀ step ∈ steps, step ≠ .watch port) :
    resultsOf port steps results =
      ClientStep.seenAll host (state.known? (ClientStep.endpoint port))
        (steps.filter fun step => step.port == port) := by
  -- Along the play, what the client knows changes only where it takes a step itself.
  induction played with
  | done => rfl
  | work worked later ih =>
    obtain ⟨event, silent, sound, stepped⟩ := worked
    have distinct := reached.hasDistinctPeers
    have other : event.client? ≠ some (ClientStep.endpoint port) := by simp [silent]
    have known := known?_of_step? distinct stepped other
    rw [ih (reached.step stepped) (faithful.step? distinct stepped sound) unwatched, known]
  | @take state next _ step steps result results taken later ih =>
    have distinct := reached.hasDistinctPeers
    have rest : ∀ other ∈ steps, other ≠ .watch port :=
      fun other member => unwatched other (List.mem_cons_of_mem step member)
    have still : next.IsFaithfulTo (ClientStep.endpoint port) := by
      obtain rfl | ⟨event, own, stepped⟩ := taken.eq_or_step?
      · exact faithful
      · exact faithful.step? distinct stepped (Event.breaks_of_client? own _)
    have tail := ih (reached.takes taken) still rest
    by_cases own : step.port = port
    · -- Its own step shows what follows from what it knows.
      subst own
      have head := taken.seen_eq unlimited created reached faithful (unwatched step (by simp))
      simp only [resultsOf, List.zip_cons_cons, List.filter_cons, beq_self_eq_true, if_true,
        List.map_cons, ClientStep.seenAll, head]
      rw [← tail, resultsOf]
    · -- The step of another client shows nothing to it.
      have known : next.known? (ClientStep.endpoint port) =
          state.known? (ClientStep.endpoint port) := by
        obtain rfl | ⟨event, other, stepped⟩ := taken.eq_or_step?
        · rfl
        · refine known?_of_step? distinct stepped ?_
          rw [other, Ne, Option.some.injEq, ClientStep.endpoint_inj]
          exact own
      have elsewhere : (step.port == port) = false := beq_eq_false_iff_ne.mpr own
      simp only [resultsOf, List.zip_cons_cons, List.filter_cons, elsewhere, Bool.false_eq_true,
        if_false]
      rw [← known, ← tail, resultsOf]

end Created

/-! ## The server that is given the time it needs -/

/-- What a step shows and where it leads is a step of a client with work before and after it, at the
end of which the server can take no step by itself. -/
def TakesAmidWork (host : Host) (peer : Endpoint) (state : State) (step : ClientStep)
    (shown : StepResult × State) : Prop :=
  ∃ middle next, state.WorksOn peer middle ∧ middle.Takes host step shown.1 next ∧
    next.WorksOn peer shown.2 ∧ shown.2.IsSettled

/-- Receiving where nothing can be had yet goes on for ever. -/
theorem clientStep_receive_of_none {port : UInt16}
    (outstanding : ((state.await (ClientStep.endpoint port)).connection?
      (ClientStep.endpoint port)).bind Connection.outstanding? = none) :
    state.clientStep host (.receive port) = (.stuck, state.await (ClientStep.endpoint port)) := by
  -- Waiting did not bring the handler to its end.
  simp only [clientStep, outstanding]

/-- Receiving where the server has come to the end of the connection is an event there. -/
theorem clientStep_receive_of_some {port : UInt16} {bytes : Bytes}
    (outstanding : ((state.await (ClientStep.endpoint port)).connection?
      (ClientStep.endpoint port)).bind Connection.outstanding? = some bytes) :
    state.clientStep host (.receive port) =
      (state.await (ClientStep.endpoint port)).clientEvent (.receive (ClientStep.endpoint port))
        (.received bytes) := by
  -- The handler has ended by then, so there is something to receive.
  simp only [clientStep, outstanding]

section Created

variable {settings : Settings} {factor : Factor} {server : Server}
  (created : Server.create settings factor = .ok server)

include created

/-- A client's own event after which the server settles is a step of that client, and work. -/
theorem takesAmidWork_clientEvent {event : Event} (act : step.act? = some (event, result))
    (through : host.isolated = true → ∀ port, step ≠ .connect port)
    (reached : Reachable server state) (settled : state.IsSettled) :
    TakesAmidWork host peer state step (state.clientEvent event result) := by
  -- The event comes first, and all work of the server behind it.
  unfold clientEvent
  cases stepped : state.step? event with
  | none => exact ⟨state, state, .refl, .misused act through stepped, .refl, settled⟩
  | some next =>
    exact ⟨state, next, .refl, .acted act through stepped, worksOn_settle next peer,
      (reached.step stepped).isSettled_settle created⟩

/-- Watching lets the server work for a while. -/
theorem takesAmidWork_watch (reached : Reachable server state) (settled : state.IsSettled)
    (port : UInt16) :
    TakesAmidWork host peer state (.watch port) (state.clientStep host (.watch port)) := by
  -- Whatever is shown, the state is the one after the time to watch, or the one before it.
  have shown : (state.clientStep host (.watch port)).2 = state ∨
      (state.clientStep host (.watch port)).2 = state.awaitFor ClientStep.watchMillis := by
    unfold clientStep
    by_cases ended : state.hasEnded (ClientStep.endpoint port) = true
    · left
      simp only [if_pos ended]
      split <;> rfl
    · right
      simp only [if_neg ended]
      split <;> rfl
  have watched (served : State) : served.Takes host (.watch port)
      (state.clientStep host (.watch port)).1 served := .watched _
  rcases shown with same | later
  · exact ⟨state, state, .refl, watched state, by rw [same], by rw [same]; exact settled⟩
  · refine ⟨state.awaitFor ClientStep.watchMillis, _, worksOn_awaitFor .., watched _, by rw [later],
      ?_⟩
    rw [later]
    exact reached.isSettled_awaitFor created settled _

/-- Receiving at a server without a limit that is given the time it needs is a step of the client,
with work before and after it. -/
theorem takesAmidWork_receive (unlimited : settings.maxConnections = none)
    (reached : Reachable server state) (settled : state.IsSettled) (port : UInt16) :
    TakesAmidWork host peer state (.receive port) (state.clientStep host (.receive port)) := by
  -- The server first waits for the end of the connection.
  have worked := worksOn_await state (ClientStep.endpoint port) peer
  have reachedServed := reached.worksOn worked
  obtain ⟨settledServed, waited⟩ := reached.await_spec created settled (ClientStep.endpoint port)
  cases outstanding : ((state.await (ClientStep.endpoint port)).connection?
      (ClientStep.endpoint port)).bind Connection.outstanding? with
  | none =>
    -- Where it has not come to an end, it never will.
    have unended : (state.await (ClientStep.endpoint port)).hasEnded (ClientStep.endpoint port) =
        false := by
      rw [hasEnded, outstanding]
      rfl
    have idle := waited.resolve_left (by simp [unended])
    rw [clientStep_receive_of_none outstanding]
    refine ⟨_, _, worked, .stuck ?_, .refl, settledServed⟩
    intro later worksLater
    exact reachedServed.never_hasEnded unlimited created settledServed idle unended worksLater
  | some bytes =>
    rw [clientStep_receive_of_some outstanding, clientEvent]
    cases stepped : (state.await (ClientStep.endpoint port)).step?
        (.receive (ClientStep.endpoint port)) with
    | none => exact ⟨_, _, worked, .refused outstanding stepped, .refl, settledServed⟩
    | some next =>
      exact ⟨_, next, worked, .received outstanding stepped, worksOn_settle next peer,
        (reachedServed.step stepped).isSettled_settle created⟩

/-- Every step at a server without a limit that is given the time it needs is a step of the client,
with work before and after it. -/
theorem takesAmidWork_clientStep (unlimited : settings.maxConnections = none)
    (reached : Reachable server state) (settled : state.IsSettled) (step : ClientStep) :
    TakesAmidWork host peer state step (state.clientStep host step) := by
  -- Every step but receiving and watching is one event of the client.
  cases step with
  | connect port =>
    unfold clientStep
    by_cases isolated : host.isolated = true
    · simp only [if_pos isolated]
      exact ⟨state, state, .refl, .unreachable isolated, .refl, settled⟩
    · simp only [if_neg isolated]
      exact takesAmidWork_clientEvent created rfl (fun holds => absurd holds isolated) reached
        settled
  | send port bytes =>
    exact takesAmidWork_clientEvent created rfl (fun _ _ same => by cases same) reached settled
  | shutdown port =>
    exact takesAmidWork_clientEvent created rfl (fun _ _ same => by cases same) reached settled
  | close port =>
    exact takesAmidWork_clientEvent created rfl (fun _ _ same => by cases same) reached settled
  | receive port => exact takesAmidWork_receive created unlimited reached settled port
  | watch port => exact takesAmidWork_watch created reached settled port

/-- The steps at a server without a limit that is given the time it needs are a play. -/
theorem plays_clientSteps (unlimited : settings.maxConnections = none)
    (reached : Reachable server state) (settled : state.IsSettled) (peer : Endpoint)
    (steps : List ClientStep) :
    state.Plays host peer steps (state.clientSteps host steps).1
      (state.clientSteps host steps).2 := by
  -- The work around each step is moved into the play before and after it.
  induction steps generalizing state with
  | nil => exact .done state
  | cons step rest ih =>
    have amidWork : TakesAmidWork host peer state step (state.clientStep host step) :=
      takesAmidWork_clientStep created unlimited reached settled step
    obtain ⟨middle, next, before, taken, after, settledNext⟩ := amidWork
    have reachedNext := ((reached.worksOn before).takes taken).worksOn after
    exact .of_worksOn before (.take taken (.of_worksOn after (ih reachedNext settledNext)))

/-- A server without a limit that is given the time it needs is one that works as it likes. -/
theorem plays_play (unlimited : settings.maxConnections = none) (host : Host) (peer : Endpoint)
    (failures : List IoFault) (steps : List ClientStep) :
    (initial server).Plays host peer steps (server.play host failures steps).1
      (server.play host failures steps).2 := by
  -- Failed accepts come first, and the server settles behind them.
  have failed := worksOn_failAccepts (initial server) failures peer
  have reached := Reachable.initial.worksOn failed
  exact (Plays.of_worksOn failed (.of_worksOn (worksOn_settle _ peer)
    (plays_clientSteps created unlimited reached.settle (reached.isSettled_settle created) peer
      steps)))

end Created

/-- Every step of a client is about itself. -/
theorem resultsOf_filter {port : UInt16} {steps : List ClientStep} {results : List StepResult}
    (own : ∀ step ∈ steps, step.port = port) (each : results.length = steps.length) :
    resultsOf port steps results = results := by
  -- All pairs are kept, and their second parts are the results.
  unfold resultsOf
  have all :
      (steps.zip results).filter (fun taken => taken.1.port == port) = steps.zip results := by
    rw [List.filter_eq_self]
    intro taken member
    simpa using own taken.1 (List.of_mem_zip member).1
  rw [all, List.map_snd_zip]
  omega

/-- What a client of a server without a limit is shown in its own steps, it is shown as well when
nobody else takes a step, whatever others send, leave unfinished, end or ask for, and whichever
accepts have failed before. This holds in whatever order the server does its work, as long as
neither the stream nor the task of the client fails, and so it does for a server that is given the
time it needs. -/
theorem results_isolated {settings : Settings} {factor : Factor} {server : Server}
    (unlimited : settings.maxConnections = none)
    (created : Server.create settings factor = .ok server) (host : Host) {port : UInt16}
    {steps : List ClientStep} (unwatched : ∀ step ∈ steps, step ≠ .watch port) :
    (∀ results last alone lastAlone,
      (initial server).Plays host (ClientStep.endpoint port) steps results last →
      (initial server).Plays host (ClientStep.endpoint port)
        (steps.filter fun step => step.port == port) alone lastAlone →
      resultsOf port steps results = alone) ∧
    (∀ failures others : List IoFault,
      resultsOf port steps (server.play host failures steps).1 =
        (server.play host others (steps.filter fun step => step.port == port)).1) := by
  -- Both are what the steps of the client show by themselves.
  have same (results last alone lastAlone)
      (played : (initial server).Plays host (ClientStep.endpoint port) steps results last)
      (playedAlone : (initial server).Plays host (ClientStep.endpoint port)
        (steps.filter fun step => step.port == port) alone lastAlone) :
      resultsOf port steps results = alone := by
    have faithful : (initial server).IsFaithfulTo (ClientStep.endpoint port) := by
      intro connection found
      cases found
    have own : ∀ step ∈ steps.filter (fun step => step.port == port), step.port = port := by
      intro step member
      simpa using (List.mem_filter.mp member).2
    have unwatchedAlone : ∀ step ∈ steps.filter (fun step => step.port == port),
        step ≠ .watch port := fun step member => unwatched step (List.mem_filter.mp member).1
    have left := played.resultsOf_eq unlimited created .initial faithful unwatched
    have right := playedAlone.resultsOf_eq unlimited created .initial faithful unwatchedAlone
    rw [List.filter_filter] at right
    simp only [Bool.and_self] at right
    rw [left, ← right, resultsOf_filter own playedAlone.length_eq]
  refine ⟨same, fun failures others => ?_⟩
  exact same _ _ _ _ (plays_play created unlimited host _ failures steps)
    (plays_play created unlimited host _ others _)

/-- A client gets its answer after a failed accept, beside one that breaks off its request and one
that asks for a long delay, as it does alone. -/
theorem results_isolated_beside_unfinished :
    let request := (Request.single 7 0).encode
    let steps : List ClientStep := [.connect 2, .send 2 (request.take 100), .connect 1, .connect 3,
      .send 3 (Request.single 9 (Delay.sleep 5000000).toWord).encode, .close 2,
      .send 1 (request.take 60), .send 1 (request.drop 60), .receive 1, .receive 3]
    ∃ server, Server.create {} ⟨1⟩ = .ok server ∧ (∀ step ∈ steps, step ≠ .watch 1) ∧
      resultsOf 1 steps (server.play {} [.ofKind .other] steps).1 =
        (server.play {} [] (steps.filter fun step => step.port == 1)).1 ∧
      resultsOf 1 steps (server.play {} [.ofKind .other] steps).1 =
        [.connected, .sent, .sent, .received [7, 0, 0, 0, 0, 0, 0, 0]] := by
  -- The second client breaks off, and the third one is still being slept for.
  intro request steps
  have created : Server.create {} ⟨1⟩ = .ok ⟨{}, ⟨1⟩, none⟩ := rfl
  have unwatched : ∀ step ∈ steps, step ≠ .watch 1 := by decide +kernel
  have alone := (results_isolated rfl created {} unwatched).2 [.ofKind .other] []
  exact ⟨_, created, unwatched, alone, by decide +kernel⟩

end State

end LoadServer
