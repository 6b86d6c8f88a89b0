import LoadServer.Proofs.Server.Admission
import LoadServer.Server.Script

/-!
A server that does all that it can. Main statements: settling ends where the server can take no step
by itself, and waiting for a connection ends where the server has ended it or has no time left to
spend.
-/

namespace LoadServer

namespace State

variable {state next : State} {peer : Endpoint} {connection : Connection} {event : Event}

/-! ## What is still asked of the server -/

/-- What is still asked is the sum over all connections, and a permit for the accept loop. -/
theorem totalBurden_eq (state : State) :
    state.totalBurden =
      (state.connections.map burden).sum + if state.admitting then 0 else 1 := by
  -- Folding the burdens up is adding them, from the last connection to the first.
  unfold totalBurden
  induction state.connections with
  | nil => simp
  | cons head rest ih => rw [List.foldr_cons, ih, List.map_cons, List.sum_cons, Nat.add_assoc]

/-- Passing time takes nothing off what is asked. -/
theorem totalBurden_elapse (state : State) (millis : Nat) :
    (state.elapse millis).totalBurden = state.totalBurden := by
  -- Work that is nearly done is still to be finished.
  have same (other : Connection) :
      burden { other with phase := other.phase.after millis } = burden other := by
    cases phase : other.phase <;> simp [burden, phase, Phase.after]
  rw [totalBurden_eq, totalBurden_eq]
  simp only [elapse, List.map_map, Function.comp_def, same]
  rfl

/-- Changing one connection changes what is asked by its own share alone. -/
theorem totalBurden_update (distinct : state.HasDistinctPeers)
    (found : state.connection? peer = some connection) (change : Connection → Connection) :
    (state.update peer change).totalBurden + burden connection =
      state.totalBurden + burden (change connection) := by
  -- Only the burden of the changed connection differs.
  have shares := sum_update distinct found burden change
  have idle : (state.update peer change).admitting = state.admitting := rfl
  rw [totalBurden_eq, totalBurden_eq, idle]
  omega

/-- Nothing else than its connections and the accept loop tells what is asked of a server. -/
theorem totalBurden_congr (connections : next.connections = state.connections)
    (admitting : next.admitting = state.admitting) : next.totalBurden = state.totalBurden := by
  -- Neither the log nor the permits are a burden.
  rw [totalBurden_eq, totalBurden_eq, connections, admitting]

/-- A handler that ends has met all that its connection asked for. -/
theorem totalBurden_conclude (distinct : state.HasDistinctPeers)
    (found : state.connection? peer = some connection) (handling : Handling) :
    (state.conclude peer handling).totalBurden + burden connection = state.totalBurden := by
  -- Reports and permits ask for nothing.
  have changed := totalBurden_update distinct found
    fun found => { found with phase := .finished handling }
  have same : (state.conclude peer handling).totalBurden =
      (state.update peer fun found => { found with phase := .finished handling }).totalBurden :=
    totalBurden_congr (connections_conclude ..) (admitting_conclude ..)
  rw [same, changed]
  rfl

/-- Every step that the server takes by itself meets some of what is asked, as long as permits are
handed out. -/
theorem totalBurden_lt_of_isOwn (distinct : state.HasDistinctPeers) (own : event.isOwn = true)
    (serving : next.stopped = false) (stepped : state.step? event = some next) :
    next.totalBurden < state.totalBurden := by
  cases event with
  | acquire =>
    -- The accept loop gets the permit that it asked for.
    obtain ⟨idle, -, granted⟩ := acquire?_eq_some_iff.mp stepped
    rcases granted with ⟨-, rfl⟩ | ⟨permits, -, ⟨left, -, rfl⟩ | ⟨-, rfl⟩⟩
    · simp [totalBurden_eq, idle]
    · simp [totalBurden_eq, idle]
    · simp at serving
  | accept fault =>
    -- The accept loop asks for the next permit, but the connection waits no more.
    obtain ⟨admitting, connection, first, rfl⟩ := accept?_eq_some_iff.mp stepped
    obtain ⟨member, waiting⟩ := firstWaiting?_eq_some first
    have changed := sum_update distinct (distinct.connection?_of_mem member) burden
      fun found => { found with phase := .reading, noDelay := .ask state.nodelay fault }
    simp only [burden, waiting] at changed
    simp only [totalBurden_eq, launch, admitting, Bool.false_eq_true, if_true, if_false]
    omega
  | read peer =>
    obtain ⟨connection, found, reading, -, rfl⟩ := read?_eq_some_iff.mp stepped
    have asked : burden connection = 2 := by simp [burden, reading]
    cases outcome : (connection.served state.factor {}).outcome with
    | error fault =>
      have noted : ({ state with log := state.log ++
          (connection.served state.factor {}).log } : State).HasDistinctPeers := distinct
      have ended := totalBurden_conclude noted found (connection.served state.factor {})
      have same : ({ state with log := state.log ++
          (connection.served state.factor {}).log } : State).totalBurden = state.totalBurden := rfl
      simp only [proceed, outcome]
      omega
    | ok =>
      have changed := totalBurden_update distinct found fun found =>
        { found with phase := .working (connection.served state.factor {}).slept }
      have left : burden { connection with
          phase := .working (connection.served state.factor {}).slept } = 1 := rfl
      have same : (state.proceed peer (connection.served state.factor {})).totalBurden =
          (state.update peer fun found =>
            { found with phase := .working (connection.served state.factor {}).slept }).totalBurden := by
        simp only [proceed, outcome]
        rfl
      omega
  | finish peer sequel =>
    obtain ⟨connection, found, spent, rfl⟩ := finish?_eq_some_iff.mp stepped
    have asked : burden connection = 1 := by simp [burden, spent]
    have ended := totalBurden_conclude distinct found (connection.served state.factor sequel)
    omega
  | _ => simp [Event.isOwn] at own

/-! ## What the server does next -/

/-- A handler goes on when it has its request or its time is spent. -/
theorem handlerEvent?_eq_some_iff :
    handlerEvent? connection = some event ↔
      (connection.phase = .reading ∧ connection.isReady = true ∧ .read connection.peer = event) ∨
        (connection.phase = .working 0 ∧ .finish connection.peer {} = event) := by
  -- Of the handlers at work only those without any time left go on.
  unfold handlerEvent?
  cases phase : connection.phase with
  | waiting => simp
  | reading => simp
  | working left => cases left <;> simp
  | finished handling => simp

/-- What the server does next is a step of some handler, or else one of the accept loop. -/
theorem serverEvent?_cases (found : state.serverEvent? = some event) :
    (∃ connection ∈ state.connections, handlerEvent? connection = some event) ∨
      (event = .acquire ∧ state.acquire?.isSome = true) ∨
        (event = .accept none ∧ (state.accept? none).isSome = true) := by
  unfold serverEvent? at found
  cases handler : state.connections.findSome? handlerEvent? with
  | some other =>
    simp only [handler, Option.some.injEq] at found
    subst other
    exact .inl (List.exists_of_findSome?_eq_some handler)
  | none =>
    -- Without such a handler it is the accept loop that goes on.
    simp only [handler] at found
    by_cases granted : state.acquire?.isSome = true
    · simp only [if_pos granted, Option.some.injEq] at found
      exact .inr (.inl ⟨found.symm, granted⟩)
    · by_cases waiting : (state.accept? none).isSome = true
      · simp only [if_neg granted, if_pos waiting, Option.some.injEq] at found
        exact .inr (.inr ⟨found.symm, waiting⟩)
      · simp [granted, waiting] at found

/-- The server does nothing next if neither a handler nor the accept loop can go on. -/
theorem serverEvent?_eq_none (idle : state.serverEvent? = none) :
    (∀ connection ∈ state.connections, handlerEvent? connection = none) ∧
      state.acquire? = none ∧ ∀ fault, state.accept? fault = none := by
  -- The handlers are asked first, then the permits and then the listener.
  unfold serverEvent? at idle
  cases handler : state.connections.findSome? handlerEvent? with
  | some other => simp [handler] at idle
  | none =>
    refine ⟨List.findSome?_eq_none_iff.mp handler, ?_⟩
    simp only [handler] at idle
    by_cases granted : state.acquire?.isSome = true
    · simp [granted] at idle
    · by_cases waiting : (state.accept? none).isSome = true
      · simp [granted, waiting] at idle
      · refine ⟨by simpa using granted, fun fault => ?_⟩
        rw [isSome_accept?, ← isSome_accept? state fault] at waiting
        simpa using waiting

/-- What the server does next is a step that it takes by itself. -/
theorem isOwn_of_serverEvent? (found : state.serverEvent? = some event) : event.isOwn = true := by
  -- A handler reads or ends, and the accept loop acquires or accepts.
  obtain ⟨connection, -, asked⟩ | ⟨rfl, -⟩ | ⟨rfl, -⟩ := serverEvent?_cases found
  · obtain ⟨-, -, rfl⟩ | ⟨-, rfl⟩ := handlerEvent?_eq_some_iff.mp asked <;> rfl
  · rfl
  · rfl

/-- What the server does next, it can do. -/
theorem exists_step?_of_serverEvent? (distinct : state.HasDistinctPeers)
    (found : state.serverEvent? = some event) : ∃ next, state.step? event = some next := by
  obtain ⟨connection, member, asked⟩ | ⟨rfl, granted⟩ | ⟨rfl, waiting⟩ := serverEvent?_cases found
  · -- The handler is found by its peer, as no other connection has it.
    have located := distinct.connection?_of_mem member
    obtain ⟨reading, ready, rfl⟩ | ⟨spent, rfl⟩ := handlerEvent?_eq_some_iff.mp asked
    · exact ⟨_, read?_eq_some_iff.mpr ⟨connection, located, reading, ready, rfl⟩⟩
    · exact ⟨_, finish?_eq_some_iff.mpr ⟨connection, located, spent, rfl⟩⟩
  · exact Option.isSome_iff_exists.mp granted
  · exact Option.isSome_iff_exists.mp waiting

/-- A server that does nothing next can take no step by itself. -/
theorem isSettled_of_serverEvent? (idle : state.serverEvent? = none) : state.IsSettled := by
  -- A handler that could go on would be found.
  obtain ⟨handlers, acquiring, accepting⟩ := serverEvent?_eq_none idle
  intro event own
  rw [Option.eq_none_iff_forall_ne_some]
  intro next stepped
  cases event with
  | acquire => simp [step?, acquiring] at stepped
  | accept fault => simp [step?, accepting] at stepped
  | read peer =>
    obtain ⟨connection, found, reading, ready, -⟩ := read?_eq_some_iff.mp stepped
    have missed := handlers connection (List.mem_of_find?_eq_some found)
    rw [handlerEvent?_eq_some_iff.mpr (.inl ⟨reading, ready, rfl⟩)] at missed
    cases missed
  | finish peer sequel =>
    obtain ⟨connection, found, spent, -⟩ := finish?_eq_some_iff.mp stepped
    have missed := handlers connection (List.mem_of_find?_eq_some found)
    rw [handlerEvent?_eq_some_iff.mpr (.inr ⟨spent, rfl⟩)] at missed
    cases missed
  | _ => simp [Event.isOwn] at own

/-! ## Settling -/

/-- What every step that the server takes by itself preserves, settling does. -/
theorem settle_induction {motive : State → Prop} (holds : motive state)
    (own : ∀ before event after, motive before → before.serverEvent? = some event →
      before.step? event = some after → motive after) : motive state.settle := by
  -- Settling is one such step after another, or no step at all.
  fun_induction settle state with
  | case1 => exact holds
  | case2 state next stepped less ih =>
    obtain ⟨event, found, taken⟩ := Option.bind_eq_some_iff.mp stepped
    exact ih (own state event next holds found taken)
  | case3 => exact holds

/-- Settling leads to a state that the server can come to. -/
theorem Reachable.settle {server : Server} (reached : Reachable server state) :
    Reachable server state.settle :=
  -- Settling is made of steps.
  settle_induction reached fun _ _ _ before _ stepped => before.step stepped

/-- Time can pass in every state. -/
theorem Reachable.elapse {server : Server} (reached : Reachable server state) (millis : Nat) :
    Reachable server (state.elapse millis) := by
  -- Time that passes is a step that is always possible.
  have passed : state.step? (.elapse millis) = some (state.elapse millis) := rfl
  exact reached.step passed

/-- A server that settles is asked for nothing more. -/
theorem totalBurden_settle_le (state : State) : state.settle.totalBurden ≤ state.totalBurden := by
  -- Each step of settling lessens the burden.
  fun_induction settle state with
  | case1 => exact Nat.le_refl _
  | case2 state next stepped less ih => omega
  | case3 => exact Nat.le_refl _

section Created

variable {settings : Settings} {factor : Factor} {server : Server}
  (created : Server.create settings factor = .ok server)

include created

/-- The accept loop of a server never ends. -/
theorem Reachable.stopped_eq_false (reached : Reachable server state) : state.stopped = false := by
  -- Without a limit no permit is needed, and with one none is refused.
  cases limit : settings.maxConnections with
  | none => exact (reached.unlimited limit created).2
  | some most => exact (reached.conserves limit created).serving

/-- The server takes what it does next as a step that meets some of what is asked. -/
theorem Reachable.exists_next (reached : Reachable server state)
    (found : state.serverEvent? = some event) :
    ∃ next, state.step? event = some next ∧ Reachable server next ∧
      next.totalBurden < state.totalBurden := by
  -- The step is possible, and it lessens the burden like every step of the server's own.
  have distinct := reached.hasDistinctPeers
  obtain ⟨next, stepped⟩ := exists_step?_of_serverEvent? distinct found
  have reachedNext := reached.step stepped
  have serving := reachedNext.stopped_eq_false created
  exact ⟨next, stepped, reachedNext,
    totalBurden_lt_of_isOwn distinct (isOwn_of_serverEvent? found) serving stepped⟩

/-- A server that settles comes to where it can take no step by itself. -/
theorem Reachable.isSettled_settle (reached : Reachable server state) :
    state.settle.IsSettled := by
  -- As long as there is a step to take, it is taken, since it meets some of what is asked.
  fun_induction State.settle state with
  | case1 state blocked =>
    refine isSettled_of_serverEvent? ?_
    rw [Option.eq_none_iff_forall_ne_some]
    intro event found
    obtain ⟨next, stepped, -, -⟩ := reached.exists_next created found
    simp [found, stepped] at blocked
  | case2 state next stepped less ih =>
    obtain ⟨event, found, taken⟩ := Option.bind_eq_some_iff.mp stepped
    exact ih (reached.step taken)
  | case3 state next stepped notLess =>
    exfalso
    obtain ⟨event, found, taken⟩ := Option.bind_eq_some_iff.mp stepped
    obtain ⟨after, same, -, less⟩ := reached.exists_next created found
    obtain rfl : next = after := Option.some.inj (taken.symm.trans same)
    exact notLess less

/-- A server that has something to do is asked for less once it has settled. -/
theorem Reachable.totalBurden_settle_lt (reached : Reachable server state)
    (found : state.serverEvent? = some event) : state.settle.totalBurden < state.totalBurden := by
  -- The first step is taken, and no later one asks for more.
  obtain ⟨next, stepped, -, less⟩ := reached.exists_next created found
  have first : state.settle = next.settle := by
    rw [State.settle]
    simp [found, stepped, less]
  have rest := totalBurden_settle_le next
  rw [first]
  omega

/-- When the least time that is still needed has passed, the server is asked for less. -/
theorem Reachable.totalBurden_settle_elapse_lt (reached : Reachable server state) {millis : Nat}
    (shortest : state.shortestLeft? = some millis) :
    (state.elapse millis).settle.totalBurden < state.totalBurden := by
  -- The handler that needed this time can finish now.
  have member := List.min?_mem shortest
  obtain ⟨connection, inside, left⟩ := List.mem_filterMap.mp member
  have working : connection.phase = .working millis := by
    split at left
    · rename_i phase
      cases left
      exact phase
    · cases left
  have moved : { connection with phase := connection.phase.after millis } ∈
      (state.elapse millis).connections := List.mem_map_of_mem inside
  have spent : handlerEvent? { connection with phase := connection.phase.after millis } =
      some (.finish connection.peer {}) :=
    handlerEvent?_eq_some_iff.mpr (.inr ⟨by simp [working, Phase.after], rfl⟩)
  have elapsed := reached.elapse millis
  rw [← totalBurden_elapse state millis]
  cases found : (state.elapse millis).serverEvent? with
  | some event => exact elapsed.totalBurden_settle_lt created found
  | none =>
    have missed := (serverEvent?_eq_none found).1 _ moved
    rw [spent] at missed
    cases missed

/-! ## Waiting for a connection -/

/-- A server that waits for a connection comes to where it has ended it or has no time left to
spend, and it settles before that. -/
theorem Reachable.await_spec (reached : Reachable server state) (settled : state.IsSettled)
    (peer : Endpoint) :
    (state.await peer).IsSettled ∧
      ((state.await peer).hasEnded peer = true ∨ (state.await peer).shortestLeft? = none) := by
  -- Every round of waiting meets some of what is asked, so that it is never broken off.
  fun_induction await state peer with
  | case1 state ended => exact ⟨settled, .inl ended⟩
  | case2 state unended idle => exact ⟨settled, .inr idle⟩
  | case3 state unended millis shortest next less ih =>
    have elapsed := reached.elapse millis
    exact ih elapsed.settle (elapsed.isSettled_settle created)
  | case4 state unended millis shortest next notLess =>
    exact absurd (reached.totalBurden_settle_elapse_lt created shortest) notLess

/-- A server that has worked for some milliseconds has settled. -/
theorem Reachable.isSettled_awaitFor (reached : Reachable server state) (settled : state.IsSettled)
    (millis : Nat) : (state.awaitFor millis).IsSettled := by
  -- Every round of it ends with settling.
  fun_induction State.awaitFor state millis with
  | case1 => exact settled
  | case2 state millis least shortest sooner next less ih =>
    have elapsed := reached.elapse least
    exact ih elapsed.settle (elapsed.isSettled_settle created)
  | case3 => exact settled
  | case4 state millis least shortest later =>
    exact (reached.elapse millis).isSettled_settle created

end Created

end State

end LoadServer
