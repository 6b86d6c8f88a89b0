import LoadServer.Proofs.Server.Schedules

/-!
Connections whose streams and tasks do not fail. Main statements: their handlers end with the answer
to what has been sent, what a client knows of its connection changes in its own steps alone, and a
server without a limit can end every connection that has its request or will get no more of it.
-/

namespace LoadServer

/-- What a client gets for what it has sent: the tag of a whole request, or nothing. -/
def answer (sent : Bytes) : Bytes :=
  if Request.size ≤ sent.length then tagBytes sent else []

/-- Sending more changes nothing in the answer to a whole request. -/
theorem answer_append {sent : Bytes} (enough : Request.size ≤ sent.length) (more : Bytes) :
    answer (sent ++ more) = answer sent := by
  -- The longer bytes hold the same whole request at their front.
  have still : Request.size ≤ (sent ++ more).length := by
    rw [List.length_append]
    omega
  rw [answer, answer, if_pos enough, if_pos still, tagBytes_append enough]

namespace Connection

variable {factor : Factor} {event : Event} {before after connection : Connection}

/-- What a client knows of its connection, which is all but how far the server is with it and what
came of asking its stream. -/
def outside (connection : Connection) : Connection :=
  { connection with noDelay := .unasked, phase := .waiting }

/-- A client knows whether its handler has what it waits for. -/
theorem isReady_outside (connection : Connection) :
    connection.outside.isReady = connection.isReady := rfl

/-- A handler spends time only on a whole request, and it ends with the answer to what has been
sent. -/
structure IsFaithful (connection : Connection) : Prop where
  request (left : Nat) (working : connection.phase = .working left) :
    Request.size ≤ connection.sent.length
  answered (handling : Handling) (ended : connection.phase = .finished handling) :
    connection.isReady = true ∧ handling.written = answer connection.sent

/-- A handler that is sent a whole request succeeds, if its response is taken whole. -/
theorem outcome_served_of_enough (factor : Factor)
    (enough : Request.size ≤ connection.sent.length) :
    (connection.served factor {}).outcome = .ok () := by
  -- The whole request decodes, and a stream without events takes everything.
  obtain ⟨unread, same⟩ := served_eq_of_decode factor {} (Request.decode_eq_ok enough)
  rw [same, respond_of_completes factor _ _ rfl]
  exact (reply_of_taking factor _ _ rfl rfl).1

/-- A handler that is sent a whole request writes the answer, if its response is taken whole and its
task completes. -/
theorem written_served_of_taken (factor : Factor) {sequel : Sequel}
    (enough : Request.size ≤ connection.sent.length)
    (taken : Response.size ≤ takenOf Response.size sequel.writes)
    (completes : sequel.task = none) :
    (connection.served factor sequel).written = answer connection.sent := by
  -- There are no more bytes in a tag than are taken.
  obtain written | ⟨failed, -⟩ := written_served factor sequel enough
  · rw [written, answer, if_pos enough]
    refine List.take_of_length_le ?_
    exact Nat.le_trans (List.length_take_le _ _) taken
  · exact absurd completes failed

/-- A handler that is yet to get its request is faithful. -/
theorem IsFaithful.of_unserved
    (unserved : connection.phase = .waiting ∨ connection.phase = .reading) :
    connection.IsFaithful where
  -- Nothing is asked of a connection before its request has been read.
  request left working := by simp [working] at unserved
  answered handling ended := by simp [ended] at unserved

/-- A handler that spends time on a whole request is faithful. -/
theorem IsFaithful.working {left : Nat} (enough : Request.size ≤ connection.sent.length) :
    { connection with phase := .working left }.IsFaithful where
  -- The handler has just begun to work, and has written nothing.
  request _ _ := enough
  answered handling ended := by cases ended

/-- A handler that ends with the answer to what has been sent is faithful. -/
theorem IsFaithful.finished {handling : Handling} (ready : connection.isReady = true)
    (written : handling.written = answer connection.sent) :
    { connection with phase := .finished handling }.IsFaithful where
  -- The handler has just ended, so its answer is the only thing to look at.
  request left working := by cases working
  answered other ended := by
    cases ended
    exact ⟨ready, written⟩

/-- A handler stays faithful as long as neither its stream nor its task fails. -/
theorem IsFaithful.moves (faithful : before.IsFaithful) (moved : Moves factor event before after)
    (sound : event.breaks before.peer = false) : after.IsFaithful := by
  cases moved with
  | rest elsewhere => exact faithful
  | accept waiting => exact .of_unserved (.inr rfl)
  | work reading ready done =>
    -- With too little sent, the handler would have given up.
    exact .working (enough_of_outcome_served done)
  | giveUp reading ready failed =>
    -- With enough sent, the handler would have succeeded.
    have short : before.sent.length < Request.size := by
      by_contra enough
      rw [outcome_served_of_enough factor (Nat.le_of_not_lt enough)] at failed
      cases failed
    refine .finished ready ?_
    rw [(served_of_short factor {} short).1, answer, if_neg (Nat.not_le.mpr short)]
  | readFailed reading final => simp [Event.breaks] at sound
  | @finish _ sequel spent =>
    -- The stream does not fail, so all of the response is taken.
    have enough := faithful.request 0 spent
    obtain ⟨taken, completes⟩ : Response.size ≤ takenOf Response.size sequel.writes ∧
        sequel.task = none := by
      simpa [Event.breaks, Event.hampers] using sound
    exact .finished (by simp [isReady, enough])
      (written_served_of_taken factor enough taken completes)
  | elapse =>
    -- Time changes how much is left of it, and no other phase.
    refine ⟨fun left working => ?_, fun handling ended => ?_⟩
    · obtain ⟨more, working⟩ := Phase.exists_working_of_after working
      exact faithful.request more working
    · exact faithful.answered handling (Phase.after_eq_finished_iff.mp ended)
  | send sending =>
    refine ⟨fun left working => ?_, fun handling ended => ?_⟩
    · have enough := faithful.request left working
      rw [List.length_append]
      omega
    · -- A handler that has ended while the client could still send had a whole request.
      obtain ⟨ready, written⟩ := faithful.answered handling ended
      have enough : Request.size ≤ before.sent.length := by simpa [isReady, sending] using ready
      refine ⟨?_, written.trans (answer_append enough _).symm⟩
      simp only [isReady, sending, List.length_append, Bool.false_or, decide_eq_true_eq]
      omega
  | shutdown isOpen =>
    exact ⟨faithful.request, fun handling ended => ⟨rfl, (faithful.answered handling ended).2⟩⟩
  | close isOpen =>
    exact ⟨faithful.request, fun handling ended => ⟨rfl, (faithful.answered handling ended).2⟩⟩
  | receive isOpen outstanding => exact ⟨faithful.request, faithful.answered⟩

/-- What a client knows of its connection changes only in its own steps. -/
theorem Moves.outside_eq (moved : Moves factor event before after)
    (other : event.client? ≠ some before.peer) : after.outside = before.outside := by
  -- All other moves are about the phase.
  cases moved with
  | send | shutdown | close | receive => exact absurd rfl other
  | _ => rfl

/-- A handler that waits for more of a request waits on while its client does not send and neither
its stream nor its task fails. -/
theorem Moves.eq_of_unready (moved : Moves factor event before after)
    (reading : before.phase = .reading) (unready : before.isReady = false)
    (silent : event.client? = none) (sound : event.breaks before.peer = false) :
    after = before := by
  cases moved with
  | rest elsewhere => rfl
  | accept waiting => simp [reading] at waiting
  | work _ ready _ => simp [unready] at ready
  | giveUp _ ready _ => simp [unready] at ready
  | readFailed => simp [Event.breaks] at sound
  | finish spent => simp [reading] at spent
  | elapse =>
    -- Time is nothing to a handler that reads.
    obtain ⟨peer, sent, ended, closed, received, noDelay, phase⟩ := before
    obtain rfl : phase = .reading := reading
    rfl
  | send | shutdown | close | receive => simp [Event.client?] at silent

end Connection

namespace State

variable {state next : State} {peer : Endpoint} {event : Event}

/-- What a client knows of its connection. -/
def known? (state : State) (peer : Endpoint) : Option Connection :=
  (state.connection? peer).map Connection.outside

/-- The handler of a client, if it has one, is faithful. -/
def IsFaithfulTo (peer : Endpoint) (state : State) : Prop :=
  ∀ connection, state.connection? peer = some connection → connection.IsFaithful

/-- A client that is not connected is not connected by the step of another or of the server. -/
theorem connection?_eq_none_of_step? (distinct : state.HasDistinctPeers)
    (stepped : state.step? event = some next) (other : event.client? ≠ some peer)
    (absent : state.connection? peer = none) : next.connection? peer = none := by
  -- Whoever is there afterwards and was not before has just connected.
  rw [Option.eq_none_iff_forall_ne_some]
  intro connection found
  have arrived := mem_arrivals_of_step? distinct stepped absent found
  have named := peer_of_connection? found
  cases event with
  | connect client =>
    obtain rfl := List.mem_singleton.mp arrived
    exact other (by rw [← named]; rfl)
  | _ => cases arrived

/-- What a client knows of its connection changes only in its own steps. -/
theorem known?_of_step? (distinct : state.HasDistinctPeers)
    (stepped : state.step? event = some next) (other : event.client? ≠ some peer) :
    next.known? peer = state.known? peer := by
  unfold known?
  cases found : state.connection? peer with
  | none => rw [connection?_eq_none_of_step? distinct stepped other found]
  | some connection =>
    -- Its connection moves by itself, and such a move shows nothing to it.
    obtain rfl := peer_of_connection? found
    obtain ⟨moved, foundNow, move⟩ := connection?_of_step? distinct stepped found
    rw [foundNow, Option.map_some, Option.map_some, move.outside_eq other]

/-- A handler stays faithful in every step in which neither its stream nor its task fails. -/
theorem IsFaithfulTo.step? (faithful : state.IsFaithfulTo peer) (distinct : state.HasDistinctPeers)
    (stepped : state.step? event = some next) (sound : event.breaks peer = false) :
    next.IsFaithfulTo peer := by
  intro connection found
  rcases fresh_or_moves_of_step? distinct stepped found with ⟨-, rfl⟩ | ⟨earlier, before, move⟩
  · -- A connection that has just been made has no handler yet.
    exact .of_unserved (.inl rfl)
  · obtain rfl := peer_of_connection? before
    exact (faithful earlier before).moves move sound

/-- What a client knows of its connection stays so while the server works. -/
theorem known?_of_worksOn {server : Server} {awaited : Endpoint} (reached : Reachable server state)
    (worked : state.WorksOn awaited next) (peer : Endpoint) :
    next.known? peer = state.known? peer := by
  -- No step of the work is one that a client takes.
  induction worked with
  | refl => rfl
  | tail before last ih =>
    obtain ⟨event, silent, -, stepped⟩ := last
    have distinct := (reached.worksOn before).hasDistinctPeers
    rw [known?_of_step? distinct stepped (by simp [silent]), ih]

/-- A client knows of a connection what is to be known of it. -/
theorem exists_of_known? {known : Connection} (found : state.known? peer = some known) :
    ∃ connection, state.connection? peer = some connection ∧ connection.outside = known :=
  -- What is known of a connection is seen from its outside.
  Option.map_eq_some_iff.mp found

section Created

variable {settings : Settings} {factor : Factor} {server : Server}
  (unlimited : settings.maxConnections = none)
  (created : Server.create settings factor = .ok server)

include unlimited created

/-- Where a server without a limit has nothing left to do, a connection that it has not ended is one
that still waits for the rest of its request. -/
theorem Reachable.reading_of_unended (reached : Reachable server state)
    (settled : state.IsSettled) (idle : state.shortestLeft? = none)
    (unended : state.hasEnded peer = false) {connection : Connection}
    (found : state.connection? peer = some connection) :
    connection.phase = .reading ∧ connection.isReady = false := by
  have member := List.mem_of_find?_eq_some found
  cases phase : connection.phase with
  | waiting =>
    -- Only a limit can make a connection wait.
    obtain ⟨most, limited, -⟩ := reached.full_of_waiting created settled member phase
    rw [unlimited] at limited
    cases limited
  | reading => exact ⟨rfl, settled.isReady_eq_false found phase⟩
  | working left =>
    -- The time that this handler needs would be left to spend.
    rw [shortestLeft?, List.min?_eq_none_iff, List.filterMap_eq_nil_iff] at idle
    have spent := idle connection member
    simp [phase] at spent
  | finished handling =>
    simp [hasEnded, found, Connection.outstanding?, phase] at unended

/-- A server without a limit can always come to the end of a connection that has its request or will
get no more of it. -/
theorem Reachable.exists_hasEnded (reached : Reachable server state) {connection : Connection}
    (found : state.connection? peer = some connection) (ready : connection.isReady = true) :
    ∃ later, state.WorksOn peer later ∧ later.hasEnded peer = true := by
  -- It settles and waits for the connection, which stays ready all the time.
  have worked : state.WorksOn peer (state.settle.await peer) :=
    (worksOn_settle state peer).trans (worksOn_await state.settle peer peer)
  refine ⟨state.settle.await peer, worked, ?_⟩
  obtain ⟨settled, ended | idle⟩ :=
    reached.settle.await_spec created (reached.isSettled_settle created) peer
  · exact ended
  · -- Otherwise it would have a handler that waits for more, against what its client knows.
    rw [← Bool.not_eq_false]
    intro unended
    have known : (state.settle.await peer).known? peer = some connection.outside := by
      rw [known?_of_worksOn reached worked, known?, found, Option.map_some]
    obtain ⟨same, foundLater, alike⟩ := exists_of_known? known
    obtain ⟨-, unready⟩ :=
      (reached.worksOn worked).reading_of_unended unlimited created settled idle
      unended foundLater
    have stillReady : same.outside.isReady = connection.outside.isReady := by rw [alike]
    rw [Connection.isReady_outside, Connection.isReady_outside, unready, ready] at stillReady
    cases stillReady

/-- Where a server without a limit has nothing left to do, a connection that it has not ended is
never ended while its client does nothing and neither its stream nor its task fails. -/
theorem Reachable.never_hasEnded (reached : Reachable server state) (settled : state.IsSettled)
    (idle : state.shortestLeft? = none) (unended : state.hasEnded peer = false) {later : State}
    (worked : state.WorksOn peer later) : later.hasEnded peer = false := by
  -- The connection stays as it is in every step, whether it is there or not.
  have same : later.connection? peer = state.connection? peer := by
    induction worked with
    | refl => rfl
    | tail before last ih =>
      obtain ⟨event, silent, sound, stepped⟩ := last
      have distinct := (reached.worksOn before).hasDistinctPeers
      cases found : state.connection? peer with
      | none =>
        rw [found] at ih
        exact connection?_eq_none_of_step? distinct stepped (by simp [silent]) ih
      | some connection =>
        obtain ⟨reading, unready⟩ :=
          reached.reading_of_unended unlimited created settled idle unended found
        rw [found] at ih
        obtain ⟨moved, foundNow, move⟩ := connection?_of_step? distinct stepped ih
        obtain rfl := peer_of_connection? ih
        rw [foundNow, move.eq_of_unready reading unready silent sound]
  rw [hasEnded, same]
  exact unended

end Created

end State

end LoadServer
