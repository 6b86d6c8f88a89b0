import LoadServer.Proofs.Connection.Handler
import LoadServer.Proofs.Server.Settling

/-!
What clients receive. Main statement: nothing but the tag of their own whole request, and that
once, however many connections are served, wait or fail at the same time.
-/

namespace LoadServer

/-- The bytes where the tag of a request stands. -/
def tagBytes (bytes : Bytes) : Bytes :=
  (bytes.drop 8).take 8

/-- Bytes that follow a whole request have no influence on its tag. -/
theorem tagBytes_append {bytes : Bytes} (enough : Request.size ≤ bytes.length) (more : Bytes) :
    tagBytes (bytes ++ more) = tagBytes bytes := by
  -- The tag ends long before the request does.
  have beyond : 16 ≤ bytes.length := Nat.le_trans (by decide) enough
  rw [tagBytes, tagBytes, List.drop_append_of_le_length (by omega),
    List.take_append_of_le_length (by rw [List.length_drop]; omega)]

namespace Connection

variable {factor : Factor} {connection : Connection}

/-- A handler delivers all that has been sent, in one piece. -/
theorem delivered_sent (sent : Bytes) : delivered [.data sent] = sent := by
  -- A single piece delivers its own bytes.
  cases sent with
  | nil => rfl
  | cons byte rest => simp [delivered]

/-- A handler that is sent too little fails at the end of the stream, and does nothing else. -/
theorem served_eq_of_short (factor : Factor) (sequel : Sequel)
    (short : connection.sent.length < Request.size) :
    ∃ unread, connection.served factor sequel =
      { outcome := .error (.read earlyEnd), unread := unread } := by
  -- The stream stops before a whole request, so reading fails.
  have missing : (delivered [.data connection.sent]).length < Request.size := by
    rw [delivered_sent]
    exact short
  have stop : deliveryStop [.data connection.sent] = earlyEnd := by
    cases connection.sent <;> simp [deliveryStop]
  rw [served, handle_of_short factor missing, stop]
  exact ⟨_, rfl⟩

/-- A handler that is sent a whole request responds to it. -/
theorem served_eq_of_decode (factor : Factor) (sequel : Sequel) {request : Request}
    (decoded : Request.decode connection.sent = .ok request) :
    ∃ unread, connection.served factor sequel = respond factor request unread sequel := by
  -- All that has been sent is delivered before the stream can stop.
  rw [← delivered_sent connection.sent] at decoded
  exact ⟨_, handle_of_decode factor decoded⟩

/-- A handler that is sent too little writes nothing back and does not succeed. -/
theorem served_of_short (factor : Factor) (sequel : Sequel)
    (short : connection.sent.length < Request.size) :
    (connection.served factor sequel).written = [] ∧
      (connection.served factor sequel).outcome ≠ .ok () := by
  -- Reading ends early, so no response is made.
  obtain ⟨unread, same⟩ := served_eq_of_short factor sequel short
  rw [same]
  exact ⟨rfl, fun succeeded => by cases succeeded⟩

/-- A handler that has succeeded has been sent a whole request. -/
theorem enough_of_outcome_served {sequel : Sequel}
    (done : (connection.served factor sequel).outcome = .ok ()) :
    Request.size ≤ connection.sent.length := by
  -- A handler that has too little to read does not succeed.
  by_contra short
  exact (served_of_short factor sequel (Nat.lt_of_not_le short)).2 done

/-- A handler that is sent a whole request writes its tag back, as far as it is taken, or nothing
where its task fails. -/
theorem written_served (factor : Factor) (sequel : Sequel)
    (enough : Request.size ≤ connection.sent.length) :
    (connection.served factor sequel).written =
        (tagBytes connection.sent).take (takenOf Response.size sequel.writes) ∨
      (sequel.task ≠ none ∧ (connection.served factor sequel).written = []) := by
  -- The response is the tag as it stands in the request, byte for byte.
  have decoded := Request.decode_eq_ok enough
  obtain ⟨unread, same⟩ := served_eq_of_decode factor sequel decoded
  have inside : 8 + 8 ≤ connection.sent.length := Nat.le_trans (by decide) enough
  rw [same]
  rcases respond_eq_or factor _ sequel with replied | ⟨number, fault, fails, failed⟩
  · rw [replied, written_reply, wordBytes_wordAt inside]
    exact .inl rfl
  · rw [failed]
    exact .inr ⟨by simp [fails], rfl⟩

/-- What a handler writes back is nothing, or a beginning of the tag of a whole request, which is
all of it where it is taken whole. -/
def Answers (taken : Prop) (sent written : Bytes) : Prop :=
  written = [] ∨
    (Request.size ≤ sent.length ∧ written <+: tagBytes sent ∧ (taken → written = tagBytes sent))

/-- What is known where less is taken whole is known where more is. -/
theorem Answers.weaken {taken still : Prop} {sent written : Bytes}
    (answers : Answers taken sent written) (weaker : still → taken) :
    Answers still sent written := by
  -- Only the promise that everything was taken depends on the condition.
  obtain nothing | ⟨enough, front, whole⟩ := answers
  · exact .inl nothing
  · exact .inr ⟨enough, front, fun holds => whole (weaker holds)⟩

/-- Sending more changes nothing in what is written back. -/
theorem Answers.append {taken : Prop} {sent written : Bytes} (answers : Answers taken sent written)
    (more : Bytes) : Answers taken (sent ++ more) written := by
  obtain nothing | ⟨enough, front, whole⟩ := answers
  · exact .inl nothing
  · -- The tag stands within the whole request.
    rw [Answers, tagBytes_append enough, List.length_append]
    exact .inr ⟨by omega, front, whole⟩

/-- A handler writes the tag of a whole request back, unless its stream stops before that or its
task fails. -/
theorem answers_served (factor : Factor) (connection : Connection) (sequel : Sequel) :
    Answers (Response.size ≤ takenOf Response.size sequel.writes) connection.sent
      (connection.served factor sequel).written := by
  -- A beginning of the tag is written in any case, and all of it where it is all taken.
  rcases Nat.lt_or_ge connection.sent.length Request.size with short | enough
  · exact .inl (served_of_short factor sequel short).1
  · rcases written_served factor sequel enough with written | ⟨-, nothing⟩
    · rw [written]
      refine .inr ⟨enough, List.take_prefix _ _, fun taken => List.take_of_length_le ?_⟩
      exact Nat.le_trans (List.length_take_le _ _) taken
    · exact .inl nothing

/-- Bytes are outstanding on a connection that has ended. -/
theorem outstanding?_eq_some_iff {bytes : Bytes} :
    connection.outstanding? = some bytes ↔
      ∃ handling, connection.phase = .finished handling ∧
        handling.written.drop connection.received.length = bytes := by
  -- Only a finished handler has anything for its client.
  unfold outstanding?
  cases phase : connection.phase <;> simp

end Connection

/-! ## What events do to a connection, seen from its client -/

namespace Event

/-- The bytes that an event sends to the server on the connection of a client. -/
def sentBy (peer : Endpoint) : Event → Bytes
  | .send other bytes => if other == peer then bytes else []
  | _ => []

/-- Whether a client ends its sending side in an event. -/
def endsSending (peer : Endpoint) : Event → Bool
  | .shutdown other => other == peer
  | .close other => other == peer
  | _ => false

/-- Whether the stream of a client stops in an event before it has taken a whole response. -/
def hampers (peer : Endpoint) : Event → Bool
  | .finish other sequel => other == peer && takenOf Response.size sequel.writes < Response.size
  | _ => false

/-- An event about something else leaves a client alone. -/
theorem idle_of_elsewhere {event : Event} {peer : Endpoint}
    (elsewhere : event.concerns peer = false) :
    event.sentBy peer = [] ∧ event.endsSending peer = false := by
  -- Sending and ending concern the client who does so.
  cases event <;> simp_all [concerns, sentBy, endsSending]

end Event

namespace Connection

variable {factor : Factor} {event : Event} {before after : Connection}

/-- What a client has sent grows by what it sends. -/
theorem Moves.sent_eq (moved : Moves factor event before after) :
    after.sent = before.sent ++ event.sentBy before.peer := by
  -- Only sending adds bytes, and events about something else send nothing here.
  cases moved with
  | rest elsewhere => rw [(Event.idle_of_elsewhere elsewhere).1, List.append_nil]
  | send => simp [Event.sentBy]
  | _ => simp [Event.sentBy]

/-- A sending side stays ended. -/
theorem Moves.ended_eq (moved : Moves factor event before after) :
    after.ended = (before.ended || event.endsSending before.peer) := by
  -- Ending and closing are the moves that end the sending side.
  cases moved with
  | rest elsewhere => rw [(Event.idle_of_elsewhere elsewhere).2, Bool.or_false]
  | _ => simp [Event.endsSending]

/-- What a handler sends back is the tag of a whole request or a beginning of it, and a client has
received either all of that or nothing. -/
structure Echoes (unhampered : Prop) (connection : Connection) : Prop where
  request (left : Nat) (working : connection.phase = .working left) :
    Request.size ≤ connection.sent.length
  written (handling : Handling) (ended : connection.phase = .finished handling) :
    Answers unhampered connection.sent handling.written
  received : connection.received = [] ∨
    ∃ handling, connection.phase = .finished handling ∧ connection.received = handling.written

namespace Echoes

variable {unhampered still : Prop}

/-- A handler that has not ended has sent nothing back. -/
theorem received_eq_nil (echoes : Echoes unhampered before)
    (unfinished : ∀ handling, before.phase ≠ .finished handling) : before.received = [] := by
  -- Bytes are received only from a handler that has ended.
  obtain none | ⟨handling, ended, -⟩ := echoes.received
  · exact none
  · exact absurd ended (unfinished handling)

/-- Sending more and letting time pass changes nothing in what is sent back. -/
theorem keep (echoes : Echoes unhampered before) (weaker : still → unhampered) {more : Bytes}
    (sent : after.sent = before.sent ++ more) (received : after.received = before.received)
    (working : ∀ left, after.phase = .working left → ∃ left, before.phase = .working left)
    (finished : ∀ handling, after.phase = .finished handling ↔ before.phase = .finished handling) :
    Echoes still after where
  -- The request was whole before, so more bytes do not change its tag.
  request left works := by
    obtain ⟨leftBefore, worked⟩ := working left works
    have enough := echoes.request leftBefore worked
    rw [sent, List.length_append]
    omega
  written handling ended := by
    rw [sent]
    exact ((echoes.written handling ((finished handling).mp ended)).append more).weaken weaker
  received := by
    rw [received]
    obtain none | ⟨handling, ended, all⟩ := echoes.received
    · exact .inl none
    · exact .inr ⟨handling, (finished handling).mpr ended, all⟩

/-- A handler that has not ended yet leaves a client with nothing. -/
theorem unfinished (none : after.received = [])
    (request : ∀ left, after.phase = .working left → Request.size ≤ after.sent.length)
    (unfinished : ∀ handling, after.phase ≠ .finished handling) : Echoes still after where
  -- Without an end of the handler there are no written bytes to speak of.
  request := request
  written handling ended := absurd ended (unfinished handling)
  received := .inl none

/-- A client that has just connected has received nothing. -/
theorem fresh (peer : Endpoint) : Echoes still { peer := peer } where
  -- A fresh connection has neither sent nor received anything.
  request left working := by cases working
  written handling ended := by cases ended
  received := .inl rfl

/-- A handler that ends leaves what it has sent back to be received. -/
theorem finished {handling : Handling} (none : before.received = [])
    (written : Answers still before.sent handling.written) :
    Echoes still { before with phase := .finished handling } where
  -- Nothing has been received from the handler that ends now.
  request left working := by cases working
  written other ended := by
    cases ended
    exact written
  received := .inl none

/-- Every move leaves a client with its own tag. -/
theorem moves (echoes : Echoes unhampered before) (moved : Moves factor event before after)
    (weaker : still → unhampered ∧ event.hampers before.peer = false) : Echoes still after := by
  have stillUnhampered (holds : still) : unhampered := (weaker holds).1
  cases moved with
  | rest | shutdown | close =>
    exact echoes.keep stillUnhampered (List.append_nil _).symm rfl (fun left works => ⟨left, works⟩)
      fun _ => Iff.rfl
  | accept waiting =>
    have none := echoes.received_eq_nil (by simp [waiting])
    exact unfinished none (fun _ working => by cases working) fun _ ended => by cases ended
  | work reading ready done =>
    -- A handler that has read too little does not get here.
    have none := echoes.received_eq_nil (by simp [reading])
    have enough := enough_of_outcome_served done
    exact unfinished none (fun _ _ => enough) fun _ ended => by cases ended
  | giveUp reading ready failed =>
    have none := echoes.received_eq_nil (by simp [reading])
    exact finished none ((answers_served factor before {}).weaken fun _ => Nat.le_refl _)
  | readFailed reading final =>
    have none := echoes.received_eq_nil (by simp [reading])
    rw [handle_of_short factor (by simp [delivered, final, Request.size])]
    exact finished none (.inl rfl)
  | @finish _ sequel spent =>
    -- The tag is sent back as far as it is taken.
    have none := echoes.received_eq_nil (by simp [spent])
    refine finished none ((answers_served factor before sequel).weaken fun holds => ?_)
    simpa [Event.hampers] using (weaker holds).2
  | elapse =>
    exact echoes.keep stillUnhampered (List.append_nil _).symm rfl
      (fun _ => Phase.exists_working_of_after) fun _ => Phase.after_eq_finished_iff
  | send =>
    exact echoes.keep stillUnhampered rfl rfl (fun left works => ⟨left, works⟩) fun _ => Iff.rfl
  | receive isOpen outstanding =>
    -- Either nothing had been received, or nothing was outstanding any more.
    obtain ⟨handling, ended, rfl⟩ := outstanding?_eq_some_iff.mp outstanding
    have all : before.received ++ handling.written.drop before.received.length =
        handling.written := by
      obtain none | ⟨same, endedSo, whole⟩ := echoes.received
      · simp [none]
      · obtain rfl : handling = same := by simpa [ended] using endedSo
        simp [whole]
    exact ⟨echoes.request, fun other endedSo => (echoes.written other endedSo).weaken stillUnhampered,
      .inr ⟨handling, ended, all⟩⟩

end Echoes

end Connection

/-! ## What the events of a run do to a connection -/

/-- All that a client sends in some events. -/
def allSentBy (peer : Endpoint) (events : List Event) : Bytes :=
  events.flatMap (Event.sentBy peer)

/-- All that is sent in some events and one more. -/
theorem allSentBy_append (peer : Endpoint) (events : List Event) (event : Event) :
    allSentBy peer (events ++ [event]) = allSentBy peer events ++ event.sentBy peer := by
  -- The bytes of the last event come last.
  simp [allSentBy]

namespace State

variable {state next : State} {peer : Endpoint} {events : List Event}

/-- What a client has received. -/
def receivedBy (state : State) (peer : Endpoint) : Bytes :=
  match state.connection? peer with
  | none => []
  | some connection => connection.received

/-- How the connection of a client goes with the events that led to a state. -/
structure Follows (peer : Endpoint) (events : List Event) (state : State) : Prop where
  absent (missing : state.connection? peer = none) :
    allSentBy peer events = [] ∧ events.any (Event.endsSending peer) = false
  present (connection : Connection) (found : state.connection? peer = some connection) :
    connection.sent = allSentBy peer events ∧
      connection.ended = events.any (Event.endsSending peer) ∧
      connection.Echoes (∀ event ∈ events, event.hampers peer = false)

/-- A client that is connected is not one that is not. -/
theorem beq_eq_false_of_absent (absent : state.connection? peer = none) {client : Endpoint}
    {connection : Connection} (found : state.connection? client = some connection) :
    (client == peer) = false := by
  -- A client that is found is not the one that is absent.
  rw [beq_eq_false_iff_ne]
  rintro rfl
  rw [absent] at found
  cases found

/-- A client that is not connected neither sends nor ends anything. -/
theorem idle_of_absent {event : Event} (absent : state.connection? peer = none)
    (stepped : state.step? event = some next) :
    event.sentBy peer = [] ∧ event.endsSending peer = false := by
  -- Each of these events needs a connection of its client.
  cases event with
  | send client bytes =>
    obtain ⟨connection, found, -⟩ := send?_eq_some_iff.mp stepped
    simp [Event.sentBy, Event.endsSending, beq_eq_false_of_absent absent found]
  | shutdown client =>
    obtain ⟨connection, found, -⟩ := shutdown?_eq_some_iff.mp stepped
    simp [Event.sentBy, Event.endsSending, beq_eq_false_of_absent absent found]
  | close client =>
    obtain ⟨connection, found, -⟩ := close?_eq_some_iff.mp stepped
    simp [Event.sentBy, Event.endsSending, beq_eq_false_of_absent absent found]
  | _ => exact ⟨rfl, rfl⟩

/-- What is known of a connection stays known in every step. -/
theorem Follows.step? {event : Event} (follows : state.Follows peer events)
    (distinct : state.HasDistinctPeers) (stepped : state.step? event = some next) :
    next.Follows peer (events ++ [event]) := by
  -- Nothing has been sent by a client that was not there before the step.
  have nothing (before : state.connection? peer = none) :
      allSentBy peer (events ++ [event]) = [] ∧
        (events ++ [event]).any (Event.endsSending peer) = false := by
    obtain ⟨silent, unended⟩ := follows.absent before
    obtain ⟨stillSilent, stillUnended⟩ := idle_of_absent before stepped
    rw [allSentBy_append, silent, stillSilent, List.any_append, unended]
    exact ⟨List.append_nil _, by simpa using stillUnended⟩
  refine ⟨fun missing => nothing (absent_of_step? distinct stepped missing),
    fun connection found => ?_⟩
  rcases fresh_or_moves_of_step? distinct stepped found with ⟨before, rfl⟩ | ⟨earlier, before, move⟩
  · obtain ⟨silent, unended⟩ := nothing before
    exact ⟨silent.symm, unended.symm, .fresh peer⟩
  · obtain ⟨sent, ended, echoes⟩ := follows.present earlier before
    obtain rfl := peer_of_connection? before
    refine ⟨?_, ?_, echoes.moves move ?_⟩
    · rw [move.sent_eq, sent, allSentBy_append]
    · rw [move.ended_eq, ended, List.any_append]
      simp
    · intro unhampered
      exact ⟨fun other member => unhampered other (by simp [member]), unhampered event (by simp)⟩

/-- What is known of a connection is known after every run. -/
theorem follows_of_run? {server : Server} (ran : (initial server).run? events = some state)
    (peer : Endpoint) : state.Follows peer events := by
  -- Nothing has been sent before the first event.
  refine (run?_induction ?_ ?_ ran).2
  · exact ⟨fun _ => ⟨rfl, rfl⟩, fun connection found => by cases found⟩
  · intro events state event next reached follows stepped
    exact follows.step? reached.hasDistinctPeers stepped

/-- A step gives a client nothing, or all that is sent back to it, which is its own tag. -/
theorem Follows.receivedBy_of_step? {event : Event} (follows : state.Follows peer events)
    (distinct : state.HasDistinctPeers) (stepped : state.step? event = some next) :
    next.receivedBy peer = state.receivedBy peer ∨
      (event = .receive peer ∧ state.receivedBy peer = [] ∧
        Request.size ≤ (allSentBy peer events).length ∧
        next.receivedBy peer <+: tagBytes (allSentBy peer events) ∧
        ((∀ event ∈ events, event.hampers peer = false) →
          next.receivedBy peer = tagBytes (allSentBy peer events))) := by
  -- Receiving is the one move that gives bytes.
  cases before : state.connection? peer with
  | none =>
    left
    cases after : next.connection? peer with
    | none => simp only [receivedBy, before, after]
    | some connection =>
      obtain rfl := eq_fresh_of_step? distinct stepped before after
      simp only [receivedBy, before, after]
  | some connection =>
    obtain ⟨sent, -, echoes⟩ := follows.present connection before
    obtain ⟨moved, after, move⟩ := connection?_of_step? distinct stepped before
    obtain rfl := peer_of_connection? before
    simp only [receivedBy, before, after, ← sent]
    cases move with
    | receive isOpen outstanding =>
      -- What is outstanding is everything at first, and nothing after that.
      obtain ⟨handling, ended, rfl⟩ := Connection.outstanding?_eq_some_iff.mp outstanding
      obtain none | ⟨same, endedSo, all⟩ := echoes.received
      · obtain nothing | ⟨enough, front, whole⟩ := echoes.written handling ended
        · simp [nothing]
        · right
          simpa [none] using ⟨enough, front, whole⟩
      · obtain rfl : handling = same := by simpa [ended] using endedSo
        simp [all]
    | _ => exact .inl rfl

/-- A client that ends its sending side before a whole request has received nothing. -/
theorem Follows.receivedBy_of_short (follows : state.Follows peer events)
    (short : (allSentBy peer events).length < Request.size) : state.receivedBy peer = [] := by
  cases found : state.connection? peer with
  | none => simp only [receivedBy, found]
  | some connection =>
    obtain ⟨sent, -, echoes⟩ := follows.present connection found
    simp only [receivedBy, found]
    -- Whatever is received is written back, which takes a whole request.
    obtain none | ⟨handling, ended, all⟩ := echoes.received
    · exact none
    · obtain none | ⟨enough, -⟩ := echoes.written handling ended
      · exact all.trans none
      · rw [sent] at enough
        exact absurd short (Nat.not_lt.mpr enough)

/-- A client that ends its sending side before a whole request comes to the end of the stream, as
soon as the server has nothing else to do and the connection does not wait. -/
theorem Follows.outstanding?_of_short (follows : state.Follows peer events)
    (ended : events.any (Event.endsSending peer) = true)
    (short : (allSentBy peer events).length < Request.size) (settled : state.IsSettled) :
    ∃ connection, state.connection? peer = some connection ∧
      (connection.outstanding? = some [] ∨ connection.phase = .waiting) := by
  -- Each phase but waiting either ends with nothing or could go on.
  cases found : state.connection? peer with
  | none =>
    rw [(follows.absent found).2] at ended
    cases ended
  | some connection =>
    obtain ⟨sent, ending, echoes⟩ := follows.present connection found
    refine ⟨connection, rfl, ?_⟩
    cases phase : connection.phase with
    | waiting => exact .inr rfl
    | reading =>
      -- The handler could still take what there is.
      have ready : connection.isReady = true := by simp [Connection.isReady, ending, ended]
      have blocked : state.read? peer = none := settled (.read peer) rfl
      rw [read?_eq_some_iff.mpr ⟨connection, found, phase, ready, rfl⟩] at blocked
      cases blocked
    | working left =>
      have enough := echoes.request left phase
      rw [sent] at enough
      exact absurd short (Nat.not_lt.mpr enough)
    | finished handling =>
      obtain none | ⟨enough, -⟩ := echoes.written handling phase
      · exact .inl (Connection.outstanding?_eq_some_iff.mpr ⟨handling, phase, by simp [none]⟩)
      · rw [sent] at enough
        exact absurd short (Nat.not_lt.mpr enough)

/-- A client receives nothing but the tag of its own whole request, and that once and whole unless
its stream stops taking bytes. A client that ends its sending side before that receives no byte,
and it comes to the end of the stream unless it waits behind as many live handlers as are
allowed. -/
theorem received_own_tag {settings : Settings} {factor : Factor} {server : Server}
    (created : Server.create settings factor = .ok server)
    (ran : (initial server).run? events = some state) (peer : Endpoint) :
    (∀ event next, state.step? event = some next →
      next.receivedBy peer = state.receivedBy peer ∨
        (event = .receive peer ∧ state.receivedBy peer = [] ∧
          Request.size ≤ (allSentBy peer events).length ∧
          next.receivedBy peer <+: tagBytes (allSentBy peer events) ∧
          ((∀ event ∈ events, event.hampers peer = false) →
            next.receivedBy peer = tagBytes (allSentBy peer events)))) ∧
    (events.any (Event.endsSending peer) = true →
      (allSentBy peer events).length < Request.size →
        state.receivedBy peer = [] ∧
        (state.IsSettled → ∃ connection, state.connection? peer = some connection ∧
          (connection.outstanding? = some [] ∨
            (connection.phase = .waiting ∧
              ∃ most, settings.maxConnections = some most ∧ state.live = most.toNat)))) := by
  -- What is known of the connection after the run decides what the next step can give.
  have follows := follows_of_run? ran peer
  have reached := reachable_of_run? ran
  refine ⟨fun event next stepped => follows.receivedBy_of_step? reached.hasDistinctPeers stepped,
    fun ended short => ⟨follows.receivedBy_of_short short, fun settled => ?_⟩⟩
  obtain ⟨connection, found, nothing | waiting⟩ := follows.outstanding?_of_short ended short settled
  · exact ⟨connection, found, .inl nothing⟩
  · have member := List.mem_of_find?_eq_some found
    have full := reached.full_of_waiting created settled member waiting
    exact ⟨connection, found, .inr ⟨waiting, full⟩⟩

/-- After a failed accept, one client gets the tag of a request that it has sent in two pieces, and
another one that has ended too early gets nothing. -/
theorem received_own_tag_beside_short_request :
    let whole : Endpoint := ⟨.loopback, 1⟩
    let short : Endpoint := ⟨.loopback, 2⟩
    let bytes := (Request.single 7 0).encode
    let events : List Event := [.connect whole, .connect short, .acquire,
      .acceptFailed (.ofKind .other), .acquire, .accept none, .send whole (bytes.take 100),
      .send short ((Request.single 9 0).encode.take 100), .shutdown short,
      .send whole (bytes.drop 100), .read whole, .finish whole {}]
    ∃ server state next, Server.create { maxConnections := some 1 } ⟨1⟩ = .ok server ∧
      (initial server).run? events = some state ∧ state.step? (.receive whole) = some next ∧
      next.receivedBy whole = tagBytes bytes ∧ state.receivedBy short = [] := by
  -- The short request ends without a response, and the whole one is read in two pieces.
  intro whole short bytes events
  let server : Server := ⟨{ maxConnections := some 1 }, ⟨1⟩, some { free := 1 }⟩
  have created : Server.create { maxConnections := some 1 } ⟨1⟩ = .ok server := rfl
  have before : ((initial server).run? events).map (receivedBy · whole) = some [] := by
    decide +kernel
  have after : ((initial server).run? (events ++ [.receive whole])).map (receivedBy · whole) ≠
      some [] := by
    decide +kernel
  have sentWhole : tagBytes (allSentBy whole events) = tagBytes bytes := by decide +kernel
  have runs : ((initial server).run? (events ++ [.receive whole])).isSome = true := by
    decide +kernel
  obtain ⟨next, again⟩ := Option.isSome_iff_exists.mp runs
  obtain ⟨state, ran, stepped⟩ := run?_append_singleton_eq_some again
  simp only [ran, again, Option.map_some, Option.some.injEq, ne_eq] at before after
  have tag := (received_own_tag created ran whole).1 _ _ stepped
  have nothing := (received_own_tag created ran short).2 (by decide) (by decide +kernel)
  obtain same | ⟨-, -, -, -, exactly⟩ := tag
  · exact absurd (same.trans before) after
  · refine ⟨server, state, next, created, ran, stepped, ?_, nothing.1⟩
    rw [exactly (by decide +kernel), sentWhole]

/-- Waiting behind live handlers is a case of its own: with a single slot that a silent client
keeps, another client that ends its sending side after three bytes does not come to the end of the
stream, although the server can take no step by itself. -/
theorem short_request_unended_behind_full_slot :
    ¬ ∀ (settings : Settings) (factor : Factor) (server : Server) (events : List Event)
      (state : State) (peer : Endpoint), settings.maxConnections ≠ some 0 →
      Server.create settings factor = .ok server → (initial server).run? events = some state →
      state.IsSettled → events.any (Event.endsSending peer) = true →
      (allSentBy peer events).length < Request.size →
        ∃ connection, state.connection? peer = some connection ∧
          connection.outstanding? = some [] := by
  intro always
  let silent : Endpoint := ⟨.loopback, 1⟩
  let short : Endpoint := ⟨.loopback, 2⟩
  let events : List Event := [.connect silent, .acquire, .accept none, .connect short,
    .send short [1, 2, 3], .shutdown short]
  let server : Server := ⟨{ maxConnections := some 1 }, ⟨1⟩, some { free := 1 }⟩
  have created : Server.create { maxConnections := some 1 } ⟨1⟩ = .ok server := rfl
  -- The slot stays with the handler that reads, so the other connection is not even accepted.
  have shown : ((initial server).run? events).map (fun state => (state.serverEvent?,
      (state.connection? short).bind Connection.outstanding?)) = some (none, none) := by
    decide +kernel
  obtain ⟨state, ran, same⟩ := Option.map_eq_some_iff.mp shown
  obtain ⟨idle, nothing⟩ := Prod.mk.inj same
  obtain ⟨connection, found, ended⟩ := always _ _ server events state short (by decide) created ran
    (isSettled_of_serverEvent? idle) (by decide) (by decide)
  rw [found, Option.bind_some, ended] at nothing
  cases nothing

end State

end LoadServer
