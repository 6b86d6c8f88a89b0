import LoadServer.Proofs.Connection.Handler

/-!
How a request is read. Main statement: exactly one request is taken of the bytes that come before
the stream first stops, and where they are too few for one, the handler ends as the stream stopped
and leaves no other trace.
-/

namespace LoadServer

/-- Why reading stops at an event, if it does. -/
def ReadEvent.stop? : ReadEvent → Option IoFault
  | .data bytes => if bytes.isEmpty then some earlyEnd else none
  | .fail fault => if fault.isInterruption then none else some fault
  | .pending => none

/-- The bytes of all events before the first one at which reading stops. -/
def arrived (reads : List ReadEvent) : Bytes :=
  (reads.takeWhile ReadEvent.goesOn).flatMap ReadEvent.bytes

/-- Why reading first stops, which is the end of the stream where no event stops it. -/
def firstStop (reads : List ReadEvent) : IoFault :=
  (reads.findSome? ReadEvent.stop?).getD earlyEnd

/-- What is delivered are the bytes that arrive. -/
theorem delivered_eq_arrived (reads : List ReadEvent) : delivered reads = arrived reads := by
  -- Events after which reading goes on give their bytes, and the first other one ends the walk.
  unfold arrived
  induction reads with
  | nil => rfl
  | cons event rest ih =>
    rw [List.takeWhile_cons]
    cases event with
    | data bytes =>
      by_cases empty : bytes = []
      · simp [delivered, ReadEvent.goesOn, empty]
      · simp [delivered, ReadEvent.goesOn, ReadEvent.bytes, empty, ih]
    | fail fault =>
      by_cases again : fault.isInterruption
      · simp [delivered, ReadEvent.goesOn, ReadEvent.bytes, again, ih]
      · simp [delivered, ReadEvent.goesOn, again]
    | pending => simp [delivered, ReadEvent.goesOn, ReadEvent.bytes, ih]

/-- Delivery ends as reading first stops. -/
theorem deliveryStop_eq_firstStop (reads : List ReadEvent) :
    deliveryStop reads = firstStop reads := by
  -- Events after which reading goes on have no reason to stop, and are passed by both walks.
  unfold firstStop
  induction reads with
  | nil => rfl
  | cons event rest ih =>
    rw [List.findSome?_cons]
    cases event with
    | data bytes => by_cases empty : bytes = [] <;> simp [deliveryStop, ReadEvent.stop?, empty, ih]
    | fail fault =>
      by_cases again : fault.isInterruption <;> simp [deliveryStop, ReadEvent.stop?, again, ih]
    | pending => simp [deliveryStop, ReadEvent.stop?, ih]

/-- What is not taken for a request is left: all bytes but those of one request, or but those that
are delivered where they are fewer. -/
theorem dataLength_rest_add (need : Nat) (reads : List ReadEvent) :
    dataLength (readExact need reads).rest + min need (delivered reads).length =
      dataLength reads := by
  -- Reading loses no byte, and it takes what is delivered as far as it is asked for.
  have kept := length_taken_add_dataLength need reads
  rw [taken_readExact, List.length_take] at kept
  omega

/-- Where time is spent and a response is sent, only sending can fail, or the task. -/
theorem outcome_respond (factor : Factor) (request : Request) (unread : Nat) (sequel : Sequel) :
    (respond factor request unread sequel).outcome = .ok () ∨
      (∃ fault, (respond factor request unread sequel).outcome = .error (.write fault)) ∨
      ∃ number fault, sequel.task = some (number, fault) ∧
        (respond factor request unread sequel).outcome = .error (.task number fault) := by
  rcases respond_eq_or factor request sequel with replied | ⟨number, fault, task, failed⟩
  · -- The outcome is told by the failure of sending, if there is one.
    rw [replied]
    cases sent : (sendResponse (Response.ofRequest request) sequel.toSending).1.fault with
    | none => exact .inl (by simp [reply, sent])
    | some fault => exact .inr (.inl ⟨fault, by simp [reply, sent]⟩)
  · rw [failed]
    exact .inr (.inr ⟨number, fault, task, rfl⟩)

/-- The bytes that are left are reported as they are. -/
theorem unread_respond (factor : Factor) (request : Request) (unread : Nat) (sequel : Sequel) :
    (respond factor request unread sequel).unread = unread := by
  -- What is left unread is known before the time is spent, whether or not that succeeds.
  rcases respond_eq_or factor request sequel with replied | ⟨number, fault, -, failed⟩
  · rw [replied, reply]
  · rw [failed]

/-- The bytes that are left have no influence on anything else. -/
theorem respond_unread (factor : Factor) (request : Request) (unread left : Nat)
    (sequel : Sequel) :
    { respond factor request left sequel with unread := unread } =
      respond factor request unread sequel := by
  -- Neither spending the time nor replying looks at what is left unread.
  rcases respond_eq_or factor request sequel with replied | ⟨number, fault, -, failed⟩
  · simp only [replied, reply]
  · simp only [failed]

/-- A stream that delivers enough bytes makes the handler respond to the request in the first of
them. -/
theorem handle_of_enough (factor : Factor) {script : Script}
    (enough : Request.size ≤ (delivered script.reads).length) :
    ∃ request, Request.decode ((delivered script.reads).take Request.size) = .ok request ∧
      handle factor script =
        respond factor request (dataLength (readExact Request.size script.reads).rest)
          script.toSequel := by
  -- Bytes that are long enough always decode, and those behind the request play no part.
  have decoded := Request.decode_eq_ok enough
  refine ⟨_, ?_, handle_of_decode factor decoded⟩
  rw [Request.decode_take enough, decoded]

/-- Two streams that deliver the same bytes and stop alike are served alike with the same task and
the same sending direction, except for the bytes that are left. -/
theorem handle_congr (factor : Factor) {script other : Script}
    (sequel : other.toSequel = script.toSequel)
    (bytes : delivered other.reads = delivered script.reads)
    (stop : deliveryStop other.reads = deliveryStop script.reads) :
    { handle factor other with unread := (handle factor script).unread } =
      handle factor script := by
  -- Both streams are short, or both bring the same request.
  rcases Nat.lt_or_ge (delivered script.reads).length Request.size with short | enough
  · have otherShort : (delivered other.reads).length < Request.size := by
      rw [bytes]
      exact short
    rw [handle_of_short factor short, handle_of_short factor otherShort, stop]
  · have decoded := Request.decode_eq_ok enough
    have otherDecoded := decoded
    rw [← bytes] at otherDecoded
    rw [handle_of_decode factor decoded, handle_of_decode factor otherDecoded, sequel, bytes]
    rw [unread_respond]
    exact respond_unread ..

/-- A handler succeeds, or it fails in reading, in its task or in sending. -/
theorem outcome_handle (factor : Factor) (script : Script) :
    (handle factor script).outcome = .ok () ∨
      (∃ fault, (handle factor script).outcome = .error (.read fault)) ∨
      (∃ fault, (handle factor script).outcome = .error (.write fault)) ∨
      ∃ number fault, script.task = some (number, fault) ∧
        (handle factor script).outcome = .error (.task number fault) := by
  -- Too few bytes are a failure of reading, and enough of them always decode.
  rcases Nat.lt_or_ge (delivered script.reads).length Request.size with short | enough
  · rw [handle_of_short factor short]
    exact .inr (.inl ⟨_, rfl⟩)
  · obtain ⟨request, -, responded⟩ := handle_of_enough factor enough
    rw [responded]
    rcases outcome_respond factor request _ script.toSequel with done | failed
    · exact .inl done
    · exact .inr (.inr failed)

/-- A handler that fails for its task has met a task that fails so. -/
theorem task_of_outcome_handle {factor : Factor} {script : Script} {number : Nat}
    {fault : TaskFault} (failed : (handle factor script).outcome = .error (.task number fault)) :
    script.task = some (number, fault) := by
  -- All other outcomes have another form.
  rcases outcome_handle factor script with
    done | ⟨cause, read⟩ | ⟨cause, written⟩ | ⟨other, cause, task, same⟩
  · cases done.symm.trans failed
  · cases read.symm.trans failed
  · cases written.symm.trans failed
  · cases same.symm.trans failed
    exact task

/-- A handler never fails in decoding. -/
theorem outcome_handle_ne_decode (factor : Factor) (script : Script) (fault : Truncated) :
    (handle factor script).outcome ≠ .error (.decode fault) := by
  intro decoding
  -- All outcomes have another form.
  rcases outcome_handle factor script with
    done | ⟨cause, read⟩ | ⟨cause, written⟩ | ⟨number, cause, -, task⟩
  · cases done.symm.trans decoding
  · cases read.symm.trans decoding
  · cases written.symm.trans decoding
  · cases task.symm.trans decoding

/-- A stream that brings a whole request has exactly its bytes taken, is reported once with the
tag and the delay of the request, and fails in sending at most, if the task that may be needed
completes. Another stream makes the handler fail as reading first stops, with all that has arrived
taken and nothing else done. How the bytes are cut, and which pauses and interruptions lie between
them, has no influence. -/
theorem handle_reading (factor : Factor) {script : Script} (completes : script.task = none) :
    let served := handle factor script
    let bytes := arrived script.reads
    (144 ≤ bytes.length →
      served.unread + 144 = dataLength script.reads ∧
      (∃ request, Request.decode (bytes.take 144) = .ok request ∧
        served.log = [.processing request.tag request.delay]) ∧
      (served.outcome = .ok () ∨ ∃ fault, served.outcome = .error (.write fault))) ∧
    (bytes.length < 144 →
      served.outcome = .error (.read (firstStop script.reads)) ∧
      served.unread + bytes.length = dataLength script.reads ∧
      served.written = [] ∧ served.events = [] ∧ served.log = [] ∧
      served.slept = 0 ∧ served.burned = 0) ∧
    (∀ fault, served.outcome ≠ .error (.decode fault)) ∧
    (∀ number fault, served.outcome ≠ .error (.task number fault)) ∧
    (∀ other : Script, other.toSequel = script.toSequel → arrived other.reads = bytes →
      firstStop other.reads = firstStop script.reads →
      { handle factor other with unread := served.unread } = served) := by
  -- What has arrived is what is delivered, and that tells how the handler goes on.
  have left := dataLength_rest_add 144 script.reads
  have never (number : Nat) (fault : TaskFault) : script.task ≠ some (number, fault) := by
    simp [completes]
  simp only [← delivered_eq_arrived, ← deliveryStop_eq_firstStop]
  refine ⟨fun enough => ?_, fun short => ?_, outcome_handle_ne_decode factor script,
    fun number fault task => never number fault (task_of_outcome_handle task),
    fun other sequel bytes stop => handle_congr factor sequel bytes stop⟩
  · -- One request is taken, and the rest of what is there is left.
    obtain ⟨request, decoded, responded⟩ := handle_of_enough factor enough
    rw [Nat.min_eq_left enough] at left
    rw [responded, unread_respond]
    refine ⟨left, ⟨request, decoded, log_respond ..⟩, ?_⟩
    rcases outcome_respond factor request _ script.toSequel with done | sent | ⟨_, _, task, -⟩
    · exact .inl done
    · exact .inr sent
    · exact absurd task (never _ _)
  · -- All that has arrived is taken, and what lies behind the stop is left.
    rw [Nat.min_eq_right (Nat.le_of_lt short)] at left
    rw [handle_of_short factor short]
    exact ⟨rfl, left, rfl, rfl, rfl, rfl, rfl⟩

/-- A request that comes in pieces with a pause and an interruption between them is served like one
that comes whole, and two more bytes behind it are left. A failure one byte before its end is
reported as it is. -/
theorem handle_reading_in_pieces :
    let factor : Factor := ⟨0x4059000000000000⟩
    let bytes := (Request.single 7 (Delay.sleep 250).toWord).encode
    let reset := ReadEvent.fail (.ofKind .connectionReset)
    let pieces : Script := {
      reads := [.data (bytes.take 143), .pending, .fail (.ofKind .interrupted),
        .data (bytes.drop 143 ++ [1, 2]), reset] }
    let joined : Script := { reads := [.data (bytes ++ [1, 2]), reset] }
    let broken : Script := { reads := [.data (bytes.take 143), reset, .data (bytes.drop 143)] }
    (handle factor pieces).unread + 144 = 146 ∧
      { handle factor joined with unread := (handle factor pieces).unread } =
        handle factor pieces ∧
      (handle factor broken).outcome = .error (.read (.ofKind .connectionReset)) ∧
      (handle factor broken).unread + 143 = 144 := by
  -- The broken script offers a whole request too, but its last byte comes after the failure.
  intro factor bytes reset pieces joined broken
  obtain ⟨whole, -, -, -, alike⟩ := @handle_reading factor pieces rfl
  obtain ⟨-, short, -⟩ := @handle_reading factor broken rfl
  obtain ⟨outcome, unread, -⟩ := short (by decide +kernel)
  exact ⟨(whole (by decide +kernel)).1,
    alike joined rfl (by decide +kernel) (by decide +kernel), outcome, unread⟩

end LoadServer
