import LoadServer.Proofs.Server.Effects
import LoadServer.Proofs.Server.Settling

/-!
Failed accepts. Main statement: they leave no trace but their own reports, in a server that is given
the time it needs and in every other run of it.
-/

namespace LoadServer

namespace State

variable {state next : State} {event : Event} {failures : List IoFault}

/-! ## Nothing that is done depends on what has been reported -/

/-- A state before which more has been reported. -/
def after (entries : List LogRecord) (state : State) : State :=
  { state with log := entries ++ state.log }

/-- The accept loop gets its permit whatever has been reported. -/
theorem acquire?_after (entries : List LogRecord) (state : State) :
    (state.after entries).acquire? = state.acquire?.map (after entries) := by
  -- Whether the loop asks, and what it is told, is the same on both sides.
  cases admitting : state.admitting with
  | true => simp [acquire?, after, admitting]
  | false =>
    cases stopped : state.stopped with
    | true => simp [acquire?, after, stopped]
    | false =>
      cases permits : state.permits with
      | none => simp [acquire?, after, admitting, stopped, permits]
      | some left =>
        cases asked : left.acquire <;>
          simp [acquire?, after, admitting, stopped, permits, asked]

/-- An accept fails whatever has been reported. -/
theorem acceptFailed?_after (entries : List LogRecord) (state : State) (fault : IoFault) :
    (state.after entries).acceptFailed? fault =
      (state.acceptFailed? fault).map (after entries) := by
  -- The new record goes to the end of the log, and the entries to its front.
  unfold acceptFailed?
  cases admitting : state.admitting <;> simp [after, admitting, note, release]

/-- A connection is accepted whatever has been reported. -/
theorem accept?_after (entries : List LogRecord) (state : State) (fault : Option IoFault) :
    (state.after entries).accept? fault = (state.accept? fault).map (after entries) := by
  -- The connection that has waited longest is the same on both sides.
  have same : (state.after entries).firstWaiting? = state.firstWaiting? := rfl
  unfold accept?
  rw [same]
  cases admitting : state.admitting <;>
    cases first : state.firstWaiting? <;> simp [after, admitting, launch, update]

/-- Every event happens whatever has been reported. -/
theorem step?_after (entries : List LogRecord) (state : State) (event : Event) :
    (state.after entries).step? event = (state.step? event).map (after entries) := by
  cases outside : event.isAdmission with
  | true =>
    cases event with
    | acquire => exact acquire?_after entries state
    | acceptFailed fault => exact acceptFailed?_after entries state fault
    | accept fault => exact accept?_after entries state fault
    | _ => cases outside
  | false =>
    -- Handlers and clients look at the connections alone.
    cases stepped : state.step? event with
    | some next =>
      obtain ⟨effect, rfl, does⟩ := exists_effect outside stepped
      rw [does (state.after entries) rfl rfl]
      simp [after, apply]
    | none =>
      rw [Option.map_none, Option.eq_none_iff_forall_ne_some]
      intro other happens
      obtain ⟨effect, -, does⟩ := exists_effect outside happens
      rw [does state rfl rfl] at stepped
      cases stepped

/-- What the server does next does not depend on what has been reported. -/
theorem serverEvent?_after (entries : List LogRecord) (state : State) :
    (state.after entries).serverEvent? = state.serverEvent? := by
  -- Which event is next does not depend on the log.
  unfold serverEvent?
  rw [acquire?_after, accept?_after, Option.isSome_map, Option.isSome_map]
  rfl

/-- A server settles whatever has been reported. -/
theorem settle_after (entries : List LogRecord) (state : State) :
    (state.after entries).settle = state.settle.after entries := by
  -- The next step of the longer log is the next step of the shorter one.
  have same (state : State) :
      (state.after entries).serverEvent?.bind (state.after entries).step? =
        (state.serverEvent?.bind state.step?).map (after entries) := by
    rw [serverEvent?_after, Option.map_bind]
    exact congrArg _ (funext fun event => step?_after entries state event)
  fun_induction settle state with
  | case1 state blocked =>
    rw [settle, same, blocked]
    rfl
  | case2 state next stepped less ih =>
    -- What is asked of the server has nothing to do with the log.
    rw [settle, same, stepped]
    exact (if_pos less).trans ih
  | case3 state next stepped notLess =>
    rw [settle, same, stepped]
    exact if_neg notLess

/-- A server settles after some milliseconds whatever has been reported. -/
theorem settle_elapse_after (entries : List LogRecord) (state : State) (millis : Nat) :
    ((state.after entries).elapse millis).settle = (state.elapse millis).settle.after entries :=
  -- Letting time pass moves no record.
  settle_after entries (state.elapse millis)

/-- The time that handlers need does not depend on what has been reported. -/
theorem shortestLeft?_after (entries : List LogRecord) (state : State) :
    (state.after entries).shortestLeft? = state.shortestLeft? := rfl

/-- A server waits for a connection whatever has been reported. -/
theorem await_after (entries : List LogRecord) (state : State) (peer : Endpoint) :
    (state.after entries).await peer = (state.await peer).after entries := by
  -- Both sides take the same branch in every round, and a round is a time that passes and settling.
  fun_induction await state peer with
  | case1 state ended =>
    rw [await]
    exact if_pos ended
  | case2 state unended idle =>
    rw [await, shortestLeft?_after, idle]
    exact ite_self _
  | case3 state unended millis shortest next less ih =>
    rw [await, shortestLeft?_after, shortest]
    simp only [settle_elapse_after]
    exact (if_neg unended).trans ((if_pos less).trans ih)
  | case4 state unended millis shortest next notLess =>
    rw [await, shortestLeft?_after, shortest]
    simp only [settle_elapse_after]
    exact (if_neg unended).trans (if_neg notLess)

/-- A server works for some milliseconds whatever has been reported. -/
theorem awaitFor_after (entries : List LogRecord) (state : State) (millis : Nat) :
    (state.after entries).awaitFor millis = (state.awaitFor millis).after entries := by
  -- Rounds go as in waiting for a connection, until the time is over.
  fun_induction awaitFor state millis with
  | case1 state millis idle =>
    rw [awaitFor, shortestLeft?_after, idle]
  | case2 state millis least shortest sooner next less ih =>
    rw [awaitFor, shortestLeft?_after, shortest]
    simp only [settle_elapse_after]
    exact (if_pos sooner).trans ((if_pos less).trans ih)
  | case3 state millis least shortest sooner next notLess =>
    rw [awaitFor, shortestLeft?_after, shortest]
    simp only [settle_elapse_after]
    exact (if_pos sooner).trans (if_neg notLess)
  | case4 state millis least shortest later =>
    rw [awaitFor, shortestLeft?_after, shortest]
    simp only [settle_elapse_after]
    exact if_neg later

/-- An event of a client shows the same whatever has been reported. -/
theorem clientEvent_after (entries : List LogRecord) (state : State) (event : Event)
    (result : StepResult) :
    (state.after entries).clientEvent event result =
      (state.clientEvent event result).map id (after entries) := by
  -- The client's own event and the settling behind it both keep the entries in front.
  unfold clientEvent
  rw [step?_after]
  cases state.step? event with
  | none => rfl
  | some next => exact congrArg (Prod.mk result) (settle_after entries next)

/-- A step of a client shows the same whatever has been reported. -/
theorem clientStep_after (host : Host) (entries : List LogRecord) (state : State)
    (step : ClientStep) :
    (state.after entries).clientStep host step =
      (state.clientStep host step).map id (after entries) := by
  -- What a client is shown is read off its connection after the server has worked.
  have same (state : State) (peer : Endpoint) :
      (state.after entries).connection? peer = state.connection? peer := rfl
  cases step with
  | connect port =>
    cases isolated : host.isolated with
    | true => simp [clientStep, isolated]
    | false => simp [clientStep, isolated, clientEvent_after]
  | send port bytes => exact clientEvent_after ..
  | shutdown port => exact clientEvent_after ..
  | close port => exact clientEvent_after ..
  | receive port =>
    simp only [clientStep, await_after, same]
    cases ((state.await (ClientStep.endpoint port)).connection?
        (ClientStep.endpoint port)).bind Connection.outstanding? with
    | none => rfl
    | some bytes => exact clientEvent_after ..
  | watch port =>
    have watched : (if (state.after entries).hasEnded (ClientStep.endpoint port)
          then state.after entries
          else (state.after entries).awaitFor ClientStep.watchMillis) =
        (if state.hasEnded (ClientStep.endpoint port) then state
          else state.awaitFor ClientStep.watchMillis).after entries := by
      rw [awaitFor_after, apply_ite (after entries)]
      rfl
    simp only [clientStep, watched, same]
    generalize (if state.hasEnded (ClientStep.endpoint port) then state
      else state.awaitFor ClientStep.watchMillis) = served
    cases (served.connection? (ClientStep.endpoint port)).bind Connection.outstanding? with
    | none => rfl
    | some bytes => cases bytes <;> rfl

/-- Clients are shown the same whatever has been reported before. -/
theorem clientSteps_after (host : Host) (entries : List LogRecord) (state : State)
    (steps : List ClientStep) :
    (state.after entries).clientSteps host steps =
      (state.clientSteps host steps).map id (after entries) := by
  -- The steps are taken one after the other, each from the state that the last one left.
  induction steps generalizing state with
  | nil => rfl
  | cons step rest ih => simp [clientSteps, clientStep_after, ih]

/-! ## Failures of the first accepts -/

/-- The accept loop can take a permit, if it needs one, and holds none. -/
structure HasSlot (state : State) : Prop where
  idle : state.admitting = false
  serving : state.stopped = false
  free (permits : Permits) (some : state.permits = some permits) :
    permits.closed = false ∧ 0 < permits.free

/-- An accept that fails gives the permit back that it has taken. -/
theorem HasSlot.fail (slot : state.HasSlot) (fault : IoFault) :
    state.acquire?.bind (·.acceptFailed? fault) = some (state.note (.acceptFailed fault)) := by
  cases permits : state.permits with
  | none =>
    -- No permit is needed.
    simp [acquire?, acceptFailed?, release, note, slot.idle, slot.serving, permits]
  | some left =>
    -- The permits are as many as before.
    obtain ⟨isOpen, free⟩ := slot.free left permits
    have granted := Permits.acquire_eq_granted_iff.mpr ⟨isOpen, free, rfl⟩
    have back : left.free - 1 + 1 = left.free := Nat.sub_add_cancel free
    simp [acquire?, acceptFailed?, release, note, Permits.release, slot.idle, slot.serving, permits,
      granted, back]

/-- All that is left of failed accepts is one report of each. -/
theorem HasSlot.failAccepts_eq (slot : state.HasSlot) (failures : List IoFault) :
    state.failAccepts failures =
      { state with log := state.log ++ failures.map LogRecord.acceptFailed } := by
  -- Every failure finds the slot that the one before it has left.
  induction failures generalizing state with
  | nil => simp [failAccepts]
  | cons fault rest ih =>
    -- The report takes no slot.
    have still : (state.note (.acceptFailed fault)).HasSlot := ⟨slot.idle, slot.serving, slot.free⟩
    rw [failAccepts, slot.fail fault]
    exact (ih still).trans (by simp [note])

/-- No accept fails where none is tried. -/
theorem failAccepts_of_acquire?_eq_none (blocked : state.acquire? = none)
    (failures : List IoFault) : state.failAccepts failures = state := by
  -- Without a permit no connection is awaited, so nothing fails.
  cases failures with
  | nil => rfl
  | cons fault rest => simp [failAccepts, blocked]

section Created

variable {settings : Settings} {factor : Factor} {server : Server}
  (created : Server.create settings factor = .ok server)

include created

/-- What is left of the failures of its first accepts in a server that allows any connections. -/
theorem failAccepts_initial (some : settings.maxConnections ≠ some 0) (failures : List IoFault) :
    (initial server).failAccepts failures =
      (initial server).after (failures.map LogRecord.acceptFailed) := by
  suffices slot : (initial server).HasSlot by
    rw [slot.failAccepts_eq]
    simp [after, initial]
  cases limit : settings.maxConnections with
  | none =>
    obtain ⟨without, serving⟩ := Reachable.initial.unlimited limit created
    exact ⟨rfl, serving, fun permits some => by cases without.symm.trans some⟩
  | some most =>
    -- All permits are free at the start.
    have conserves := Conserves.initial limit created
    obtain ⟨permits, given, isOpen, account⟩ := conserves.account
    refine ⟨rfl, conserves.serving, fun asked same => ?_⟩
    obtain rfl : permits = asked := Option.some.inj (given.symm.trans same)
    refine ⟨isOpen, Nat.pos_of_ne_zero fun none => some ?_⟩
    have nobody : most.toNat = 0 := by simpa [none, held, live, initial] using account.symm
    rw [limit, show most = 0 from UInt64.toNat_inj.mp nobody]

/-- A server that allows no connections does not try to accept any. -/
theorem acquire?_initial_eq_none (none : settings.maxConnections = some 0) :
    (initial server).acquire? = Option.none := by
  -- There are no permits to be had.
  obtain ⟨permits, given, isOpen, account⟩ := (Conserves.initial none created).account
  have nothing : permits.free = 0 := by
    have total : (0 : UInt64).toNat = 0 := rfl
    omega
  simp only [initial] at given
  simp [acquire?, Permits.acquire, initial, given, isOpen, nothing]

end Created

end State

/-! ## Failures at any time -/

/-- What is left of an event if no accept fails, where a permit is taken when it is used. -/
def Event.unfailing : Event → List Event
  | .acquire => []
  | .acceptFailed _ => []
  | .accept fault => [.acquire, .accept fault]
  | event => [event]

namespace State

variable {state next : State} {event : Event}

/-- A state as it would be if no accept had failed, with the permit of the accept loop free. -/
def unfailing (state : State) : State :=
  { state with
    admitting := false
    permits := if state.admitting then state.permits.map Permits.release else state.permits
    log := state.log.filter fun entry => entry.acceptFault? = none }

/-- What happens outside of the accept loop is told without the failures of accepts. -/
theorem unfailing_apply (state : State) (effect : Effect) :
    (state.apply effect).unfailing = state.unfailing.apply effect := by
  -- An effect adds no record of a failed accept, so the filter keeps all that it adds.
  have kept : effect.entries.filter (fun entry => entry.acceptFault? = none) = effect.entries := by
    refine List.filter_eq_self.mpr fun entry member => ?_
    have outside := effect.outside entry member
    cases entry <;> simp_all [LogRecord.isAdmission, LogRecord.acceptFault?]
  cases admitting : state.admitting <;> cases frees : effect.frees <;>
    simp [unfailing, apply, admitting, frees, List.filter_append, kept]

/-- A connection that is accepted is told without the failures of accepts, with the report of what
came of asking its stream. -/
theorem unfailing_launch (state : State) (peer : Endpoint) (noDelay : NoDelay) :
    (state.launch peer noDelay).unfailing =
      { state.unfailing with admitting := true, permits := state.permits }.launch peer noDelay := by
  -- The permit of the attempt becomes the one of the handler, whatever comes of the stream.
  cases noDelay <;> simp [unfailing, launch, update, NoDelay.reports, LogRecord.acceptFault?]

section Created

variable {settings : Settings} {factor : Factor} {server : Server}
  (created : Server.create settings factor = .ok server)

include created

/-- Without failures the accept loop takes the permit that it has when it uses it. -/
theorem Reachable.acquire?_unfailing (reached : Reachable server state)
    (admitting : state.admitting = true) :
    state.unfailing.acquire? =
      some { state.unfailing with admitting := true, permits := state.permits } := by
  have serving := reached.stopped_eq_false created
  cases limit : settings.maxConnections with
  | none =>
    obtain ⟨without, -⟩ := reached.unlimited limit created
    simp [acquire?, unfailing, serving, without]
  | some most =>
    -- The permit of the accept loop is put back, so that one is free.
    obtain ⟨permits, given, isOpen, -⟩ := (reached.conserves limit created).account
    have granted : permits.release.acquire = .granted permits :=
      Permits.acquire_eq_granted_iff.mpr ⟨isOpen, Nat.succ_pos _, rfl⟩
    simp [acquire?, unfailing, serving, given, admitting, granted]

/-- A step is a step without failures too, if anything is left of it. -/
theorem Reachable.run?_unfailing (reached : Reachable server state)
    (stepped : state.step? event = some next) :
    state.unfailing.run? event.unfailing = some next.unfailing := by
  cases outside : event.isAdmission with
  | false =>
    -- Handlers and clients find the same connections with and without failures.
    obtain ⟨effect, rfl, does⟩ := exists_effect outside stepped
    have kept : event.unfailing = [event] := by cases event <;> first | rfl | cases outside
    rw [kept, unfailing_apply]
    simpa [run?] using does state.unfailing rfl rfl
  | true =>
    cases event with
    | acquire =>
      -- The permit that is taken counts as free.
      have serving := (reached.step stepped).stopped_eq_false created
      obtain ⟨idle, -, granted⟩ := acquire?_eq_some_iff.mp stepped
      rcases granted with ⟨without, rfl⟩ | ⟨permits, given, ⟨left, granted, rfl⟩ | ⟨-, rfl⟩⟩
      · simp [run?, Event.unfailing, unfailing, idle, without]
      · obtain ⟨-, free, rfl⟩ := Permits.acquire_eq_granted_iff.mp granted
        have back : permits.free - 1 + 1 = permits.free := Nat.sub_add_cancel free
        simp [run?, Event.unfailing, unfailing, idle, given, Permits.release, back]
      · cases serving
    | acceptFailed fault =>
      -- The permit comes back, and counted as free before.
      obtain ⟨admitting, rfl⟩ := acceptFailed?_eq_some_iff.mp stepped
      simp [run?, Event.unfailing, unfailing, admitting, release, note, LogRecord.acceptFault?]
    | accept fault =>
      -- The permit that the accept loop has is taken only now.
      obtain ⟨admitting, connection, first, rfl⟩ := accept?_eq_some_iff.mp stepped
      have taken := reached.acquire?_unfailing created admitting
      have accepts : accept? { state.unfailing with admitting := true, permits := state.permits }
          fault = some (state.launch connection.peer (.ask state.nodelay fault)).unfailing := by
        refine accept?_eq_some_iff.mpr ⟨rfl, connection, first, ?_⟩
        exact (unfailing_launch state connection.peer (.ask state.nodelay fault)).symm
      simpa [run?, Event.unfailing, step?, taken] using accepts
    | _ => cases outside

/-- Every run is a run without failures too, if that is left of its events which is not about them.
-/
theorem run?_unfailing {events : List Event} (ran : (initial server).run? events = some state) :
    (initial server).run? (events.flatMap Event.unfailing) = some state.unfailing := by
  -- The run is rebuilt from its front, each event as its quiet counterpart.
  refine (run?_induction (motive := fun events state =>
    (initial server).run? (events.flatMap Event.unfailing) = some state.unfailing) rfl ?_ ran).2
  intro events state event next reached quiet stepped
  have last := reached.run?_unfailing created stepped
  rw [run?] at quiet last ⊢
  rw [List.flatMap_append, List.flatMap_singleton, List.foldlM_append, quiet]
  exact last

end Created

/-! ## Transparency -/

section Created

variable {settings : Settings} {factor : Factor} {server : Server}

/-- A client that is served after failed accepts is served as if there had been none, and all that
is left of them is one report of each. -/
theorem play_of_slot (created : Server.create settings factor = .ok server)
    (some : settings.maxConnections ≠ some 0) (host : Host) (failures : List IoFault)
    (steps : List ClientStep) :
    server.play host failures steps =
      (server.play host [] steps).map id (after (failures.map LogRecord.acceptFailed)) := by
  -- The failures happen before the first client, and leave only their records.
  rw [Server.play, failAccepts_initial created some, settle_after, clientSteps_after]
  rfl

/-- Where no connections are allowed no accept is tried, so that none can fail. -/
theorem play_of_no_slot (created : Server.create settings factor = .ok server)
    (none : settings.maxConnections = some 0) (host : Host) (failures : List IoFault)
    (steps : List ClientStep) :
    server.play host failures steps = server.play host [] steps := by
  -- No permit is ever free, so the server does not come to an accept.
  have blocked := acquire?_initial_eq_none created none
  rw [Server.play, Server.play, failAccepts_of_acquire?_eq_none blocked,
    failAccepts_of_acquire?_eq_none blocked]

/-- A failed accept is reported with its own text. -/
theorem line_acceptFailed (fault : IoFault) :
    (LogRecord.acceptFailed fault).line =
      "ERROR Failed to accept connection error=" ++ fault.message := by
  -- The text in front is the level, a space and the message of the record.
  have parts : "ERROR Failed to accept connection error=" =
      "ERROR" ++ " " ++ "Failed to accept connection error=" := by decide
  rw [parts, String.append_assoc]
  rfl

/-- Failed accepts are transparent. A server whose first accepts fail shows a client the same as one
whose accepts do not fail, and reports the same after one record of each failure, unless it allows
no connections: then no accept is tried and none can fail. Each record shows the text of its
failure. Moreover, in whatever order the server and its clients take their steps, and whenever
accepts fail, every run is one without failures once what is about them is left out: with the same
connections, and the same reports but for one of each failure. -/
theorem failed_accepts_transparent (created : Server.create settings factor = .ok server) :
    (∀ (host : Host) (failures : List IoFault) (steps : List ClientStep),
      (server.play host failures steps).1 = (server.play host [] steps).1 ∧
      (settings.maxConnections ≠ some 0 →
        (server.play host failures steps).2.log =
          failures.map LogRecord.acceptFailed ++ (server.play host [] steps).2.log) ∧
      (settings.maxConnections = some 0 →
        (server.play host failures steps).2.log = (server.play host [] steps).2.log)) ∧
    (∀ fault : IoFault, (LogRecord.acceptFailed fault).line =
      "ERROR Failed to accept connection error=" ++ fault.message) ∧
    ∀ (events : List Event) (state : State), (initial server).run? events = some state →
      ∃ quiet, (initial server).run? (events.flatMap Event.unfailing) = some quiet ∧
        quiet.connections = state.connections ∧
        (quiet.log = state.log.filter fun entry => entry.acceptFault? = none) ∧
        state.log.filterMap LogRecord.acceptFault? = events.filterMap Event.acceptFault? := by
  refine ⟨?_, line_acceptFailed, ?_⟩
  · intro host failures steps
    -- Only a server without any slot never comes to accept.
    by_cases slot : settings.maxConnections = some 0
    · rw [play_of_no_slot created slot host failures steps]
      exact ⟨rfl, fun some => absurd slot some, fun _ => rfl⟩
    · rw [play_of_slot created slot host failures steps]
      exact ⟨rfl, fun _ => rfl, fun none => absurd none slot⟩
  · intro events state ran
    exact ⟨state.unfailing, run?_unfailing created ran, rfl, rfl, acceptFaults_of_run? ran⟩

/-- With a single slot, three failed accepts do not keep clients from their answers. -/
theorem failed_accepts_transparent_single_slot :
    let faults : List IoFault := [.ofKind .other, .ofKind .connectionAborted, .ofKind .other]
    let steps : List ClientStep :=
      -- The second client is served only after the first one, whose permit it takes over.
      [.connect 1, .connect 2, .send 1 (Request.single 7 0).encode, .receive 1, .shutdown 2,
        .receive 2]
    ∃ server, Server.create { maxConnections := some 1 } ⟨1⟩ = .ok server ∧
      (server.play {} faults steps).1 = (server.play {} [] steps).1 ∧
      (server.play {} faults steps).2.log =
        faults.map LogRecord.acceptFailed ++ (server.play {} [] steps).2.log ∧
      (server.play {} faults steps).1 =
        [.connected, .connected, .sent, .received [7, 0, 0, 0, 0, 0, 0, 0], .shut,
          .received []] := by
  intro faults steps
  have created : Server.create { maxConnections := some 1 } ⟨1⟩ =
      .ok ⟨{ maxConnections := some 1 }, ⟨1⟩, some { free := 1 }⟩ := rfl
  obtain ⟨shown, reported, -⟩ := (failed_accepts_transparent created).1 {} faults steps
  exact ⟨_, created, shown, reported (by decide), by decide +kernel⟩

/-- Without any slots a failure that the first accept would have is not reported. -/
theorem failed_accepts_unreported_without_slots :
    ¬ ∀ (settings : Settings) (factor : Factor) (server : Server) (host : Host)
      (failures : List IoFault) (steps : List ClientStep),
      Server.create settings factor = .ok server →
        (server.play host failures steps).1 = (server.play host [] steps).1 ∧
        (server.play host failures steps).2.log.Perm
          ((server.play host [] steps).2.log ++ failures.map LogRecord.acceptFailed) := by
  intro transparent
  -- The server that allows no connections reports as much with the failure as without it.
  have created : Server.create { maxConnections := some 0 } ⟨1⟩ =
      .ok ⟨{ maxConnections := some 0 }, ⟨1⟩, some { free := 0 }⟩ := rfl
  have reported := (transparent _ _ _ {} [.ofKind .other] [] created).2
  rw [play_of_no_slot created rfl] at reported
  simpa using reported.length_eq

end Created

end State

end LoadServer
